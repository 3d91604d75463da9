import Relmap.Proofs.Keyed
import Relmap.Schema.Registry
import Mathlib.Data.List.Nodup
import Mathlib.Data.List.Pairwise
import Mathlib.Data.List.Perm.Subperm
import Mathlib.Logic.Relation

/-!
# Coherent tables

Which tables form a registry. Names are taken once, links lead to tables of the right kind, and no
table is above itself. Main statement, `build_iff_coherent`: a registry is built from just the
tables that are coherent; in it parents and subclasses are each other's converse, parents end, and
a look-up finds the only table of its name.
-/

namespace Relmap

/-- The tables that are linked as subclasses. -/
def Metadata.children (m : Metadata) : List String := m.subclasses.map (·.2)

namespace Registry

/-- The table `p` is registered and has `c` as a subclass. -/
def IsParent (tables : List Metadata) (c p : Metadata) : Prop := p ∈ tables ∧ c.table ∈ p.children

/-- The entities of the tables that are translations, or of those that are not. -/
def entities (tables : List Metadata) (translations : Bool) : List String :=
  (tables.filter fun m => m.isTranslation == translations).filterMap (·.entity)

/-- No table is a subclass of two tables. -/
def OneParent (tables : List Metadata) : Prop :=
  ∀ p ∈ tables, ∀ q ∈ tables, ∀ name, name ∈ p.children → name ∈ q.children → p = q

/-- Names are taken once, links lead to tables of the right kind, and no table is above itself. -/
structure Coherent (tables : List Metadata) : Prop where
  tableNames : (tables.map (·.table)).Nodup
  entityNames : ∀ translations, (entities tables translations).Nodup
  subclasses : ∀ m ∈ tables, ∀ name ∈ m.children, ∃ child ∈ tables, child.table = name
  translations : ∀ m ∈ tables, ∀ name, m.translation = some name →
    ∃ t ∈ tables, t.table = name ∧ t.isTranslation = true
  oneParent : OneParent tables
  /-- Following parents never leads back. -/
  ascends : ∀ m, ¬Relation.TransGen (IsParent tables) m m

/-- The table that is the given number of parents above. -/
def ancestor? (tables : List Metadata) : Nat → Metadata → Option Metadata
  | 0, m => some m
  | steps + 1, m => (parent? tables m.table).bind (ancestor? tables steps)

/-! ## Look-ups -/

theorem isSome_table?_iff {tables : List Metadata} {name : String} :
    (table? tables name).isSome ↔ ∃ m ∈ tables, m.table = name := by
  simp [table?]

theorem hasChild_iff {m : Metadata} {name : String} :
    hasChild m name = true ↔ name ∈ m.children := by
  simp only [hasChild, List.any_eq_true, beq_iff_eq, Metadata.children, List.mem_map]

variable {tables : List Metadata}

theorem table?_eq_some (tableNames : (tables.map (·.table)).Nodup) {name : String} {m : Metadata} :
    table? tables name = some m ↔ m ∈ tables ∧ m.table = name :=
  find?_of_distinct tableNames

theorem parent?_eq_some (oneParent : OneParent tables) {c p : Metadata} :
    parent? tables c.table = some p ↔ IsParent tables c p := by
  unfold parent? IsParent
  rw [find?_eq_some_of_unique]
  · rw [hasChild_iff]
  · intro a isTable b isTable' above above'
    rw [hasChild_iff] at above above'
    exact oneParent a isTable b isTable' _ above above'

/-! ## Names -/

/-- The names of two tables do not clash. -/
def Apart (m other : Metadata) : Prop := m.table ≠ other.table ∧ sharesEntity other m = false

theorem clash?_eq_none {earlier : List Metadata} {m : Metadata} :
    clash? earlier m = none ↔ ∀ other ∈ earlier, Apart other m := by
  unfold clash? Apart
  constructor
  · intro free other member
    split at free
    · cases free
    · rename_i table
      split at free
      · cases free
      · rename_i entity
        simp only [List.any_eq_true, beq_iff_eq, not_exists, not_and] at table entity
        exact ⟨table other member, by simpa using entity other member⟩
  · intro apart
    rw [if_neg, if_neg]
    · simp only [List.any_eq_true, not_exists, not_and, Bool.not_eq_true]
      exact fun other member => (apart other member).2
    · simp only [List.any_eq_true, beq_iff_eq, not_exists, not_and]
      exact fun other member => (apart other member).1

theorem clashAmong?_eq_none {earlier tables : List Metadata} :
    clashAmong? earlier tables = none ↔
      (∀ m ∈ tables, ∀ other ∈ earlier, Apart other m) ∧ tables.Pairwise Apart := by
  induction tables generalizing earlier with
  | nil => simp [clashAmong?]
  | cons m rest ih =>
    simp only [clashAmong?, Option.or_eq_none_iff, clash?_eq_none, ih, List.mem_append,
      List.mem_singleton, List.forall_mem_cons, List.pairwise_cons]
    constructor
    · rintro ⟨here, later, apart⟩
      exact ⟨⟨here, fun n member other early => later n member other (.inl early)⟩,
        fun n member => later n member m (.inr rfl), apart⟩
    · rintro ⟨⟨here, later⟩, first, apart⟩
      refine ⟨here, fun n member other known => ?_, apart⟩
      rcases known with early | rfl
      · exact later n member other early
      · exact first n member

theorem sharesEntity_eq_false {m other : Metadata} :
    sharesEntity other m = false ↔
      ∀ translations, m.isTranslation = translations → other.isTranslation = translations →
        ∀ entity, m.entity = some entity → ∀ entity', other.entity = some entity' →
          entity ≠ entity' := by
  unfold sharesEntity
  cases other.entity with
  | none => simp
  | some entity' =>
    cases m.entity with
    | none => simp
    | some entity =>
      simp only [Option.isSome_some, Option.some_beq_some, Bool.true_and, Bool.and_eq_false_imp,
        beq_iff_eq, beq_eq_false_iff_ne, ne_eq, Option.some.injEq, forall_eq']
      grind

theorem pairwise_apart_iff {tables : List Metadata} :
    tables.Pairwise Apart ↔
      (tables.map (·.table)).Nodup ∧ ∀ translations, (entities tables translations).Nodup := by
  unfold Apart
  rw [List.pairwise_and_iff, List.Nodup, List.pairwise_map]
  refine and_congr_right fun _ => ?_
  simp only [entities, List.pairwise_filterMap, List.pairwise_filter, beq_iff_eq,
    sharesEntity_eq_false, Bool.forall_bool, List.pairwise_and_iff]

/-! ## Links -/

theorem missingChild?_eq_none {tables : List Metadata} {m : Metadata} :
    missingChild? tables m = none ↔
      ∀ name ∈ m.children, ∃ child ∈ tables, child.table = name := by
  simp only [missingChild?, List.findSome?_eq_none_iff, ite_eq_left_iff, reduceCtorEq, imp_false,
    not_not, isSome_table?_iff, Metadata.children, List.forall_mem_map]

theorem sharedChild?_eq_none {earlier : List Metadata} {m : Metadata} :
    sharedChild? earlier m = none ↔
      ∀ parent ∈ earlier, List.Disjoint parent.children m.children := by
  simp only [sharedChild?, List.findSome?_eq_none_iff, Option.map_eq_none_iff, List.find?_eq_none,
    hasChild_iff]
  constructor
  · intro unshared parent member name shared isChild
    obtain ⟨link, isLink, rfl⟩ := List.mem_map.mp isChild
    exact unshared link isLink parent member shared
  · intro disjoint link isLink parent member shared
    exact disjoint parent member shared (List.mem_map_of_mem isLink)

theorem translationFault?_eq_none {tables : List Metadata} {m : Metadata} :
    translationFault? tables m = none ↔
      ∀ name, m.translation = some name →
        ∃ t, table? tables name = some t ∧ t.isTranslation = true := by
  unfold translationFault?
  cases m.translation with
  | none => simp
  | some name =>
    cases found : table? tables name with
    | none => simp [found]
    | some t => simp [found]

theorem linkFault?_eq_none {tables earlier rest : List Metadata} :
    linkFault? tables earlier rest = none ↔
      (∀ m ∈ rest, missingChild? tables m = none ∧ translationFault? tables m = none) ∧
        (∀ m ∈ rest, ∀ parent ∈ earlier, List.Disjoint parent.children m.children) ∧
          rest.Pairwise fun parent m => List.Disjoint parent.children m.children := by
  induction rest generalizing earlier with
  | nil => simp [linkFault?]
  | cons m rest ih =>
    simp only [linkFault?, Option.or_eq_none_iff, sharedChild?_eq_none, ih, List.mem_append,
      List.mem_singleton, List.forall_mem_cons, List.pairwise_cons]
    constructor
    · rintro ⟨missing, here, translation, links, later, disjoint⟩
      exact ⟨⟨⟨missing, translation⟩, links⟩,
        ⟨here, fun n member parent early => later n member parent (.inl early)⟩,
        fun n member => later n member m (.inr rfl), disjoint⟩
    · rintro ⟨⟨⟨missing, translation⟩, links⟩, ⟨here, later⟩, first, disjoint⟩
      refine ⟨missing, here, translation, links, fun n member parent known => ?_, disjoint⟩
      rcases known with early | rfl
      · exact later n member parent early
      · exact first n member

/-! ## Parents -/

theorem cycle?_eq_none {tables : List Metadata} :
    cycle? tables = none ↔ ∀ m ∈ tables, parentsEnd tables tables.length m.table = true := by
  simp only [cycle?, Option.map_eq_none_iff, List.find?_eq_none, Bool.not_eq_true',
    Bool.not_eq_false]

theorem parentsEnd_iff {tables : List Metadata} {steps : Nat} {m : Metadata} :
    parentsEnd tables steps m.table = true ↔ ancestor? tables steps m = none := by
  induction steps generalizing m with
  | zero => simp [parentsEnd, ancestor?]
  | succ steps ih =>
    rw [parentsEnd, ancestor?]
    cases parent? tables m.table with
    | none => simp
    | some p => exact ih

/-- Parents that have been followed form a chain. -/
theorem exists_chain (oneParent : OneParent tables) {steps : Nat} {m top : Metadata}
    (follows : ancestor? tables steps m = some top) :
    ∃ above : List Metadata, above.length = steps ∧ (m :: above).IsChain (IsParent tables) := by
  induction steps generalizing m with
  | zero => exact ⟨[], rfl, .singleton m⟩
  | succ steps ih =>
    rw [ancestor?, Option.bind_eq_some_iff] at follows
    obtain ⟨p, isParent, follows⟩ := follows
    obtain ⟨above, length, chain⟩ := ih follows
    exact ⟨p :: above, by rw [List.length_cons, length],
      chain.cons_cons ((parent?_eq_some oneParent).mp isParent)⟩

/-- Where no table is above itself, a chain visits no table twice, so that it is no longer than the
list of tables. -/
theorem ancestor?_eq_none (oneParent : OneParent tables)
    (ascends : ∀ m, ¬Relation.TransGen (IsParent tables) m m) {m : Metadata} (isTable : m ∈ tables) :
    ancestor? tables tables.length m = none := by
  rw [Option.eq_none_iff_forall_ne_some]
  intro top follows
  obtain ⟨above, length, chain⟩ := exists_chain oneParent follows
  have ordered : (m :: above).Pairwise (Relation.TransGen (IsParent tables)) :=
    List.isChain_iff_pairwise.mp (chain.imp fun _ _ => .single)
  have distinct : (m :: above).Nodup := by
    refine ordered.imp ?_
    rintro a _ isAbove rfl
    exact ascends a isAbove
  have registered : m :: above ⊆ tables := by
    rw [List.cons_subset]
    refine ⟨isTable, fun p isAbove => ?_⟩
    obtain ⟨_, _, isParent⟩ :=
      Relation.TransGen.tail'_iff.mp ((List.pairwise_cons.mp ordered).1 p isAbove)
    exact isParent.1
  have short := (distinct.subperm registered).length_le
  -- The chain has one table more than there are parents in it.
  rw [List.length_cons, length] at short
  exact absurd short (Nat.not_succ_le_self _)

/-- From a table that is above itself parents can be followed for ever. -/
theorem ancestor?_ne_none (oneParent : OneParent tables) {steps : Nat} {m : Metadata}
    (loop : Relation.TransGen (IsParent tables) m m) : ancestor? tables steps m ≠ none := by
  induction steps generalizing m with
  | zero => exact Option.some_ne_none m
  | succ steps ih =>
    obtain ⟨p, isParent, back⟩ := Relation.TransGen.head'_iff.mp loop
    rw [ancestor?, (parent?_eq_some oneParent).mpr isParent]
    exact ih (.tail' back isParent)

theorem cycle?_eq_none_iff (oneParent : OneParent tables) :
    cycle? tables = none ↔ ∀ m, ¬Relation.TransGen (IsParent tables) m m := by
  rw [cycle?_eq_none]
  constructor
  · intro ends m loop
    obtain ⟨_, _, isParent⟩ := Relation.TransGen.tail'_iff.mp loop
    exact ancestor?_ne_none oneParent loop (parentsEnd_iff.mp (ends m isParent.1))
  · intro ascends m isTable
    exact parentsEnd_iff.mpr (ancestor?_eq_none oneParent ascends isTable)

/-! ## Registries -/

theorem oneParent_iff (distinct : tables.Nodup) :
    OneParent tables ↔
      tables.Pairwise fun parent m => List.Disjoint parent.children m.children := by
  constructor
  · intro oneParent
    refine distinct.pairwise_of_forall_ne fun p isTable q isTable' differ name => ?_
    intro isChild isChild'
    exact differ (oneParent p isTable q isTable' name isChild isChild')
  · intro disjoint p isTable q isTable' name isChild isChild'
    by_contra differ
    have : Std.Symm fun parent m : Metadata => List.Disjoint parent.children m.children :=
      ⟨fun _ _ => List.disjoint_symm⟩
    exact disjoint.forall isTable isTable' differ isChild isChild'

theorem linkFault?_eq_none_iff (tableNames : (tables.map (·.table)).Nodup) :
    linkFault? tables [] tables = none ↔
      (∀ m ∈ tables, ∀ name ∈ m.children, ∃ child ∈ tables, child.table = name) ∧
        (∀ m ∈ tables, ∀ name, m.translation = some name →
          ∃ t ∈ tables, t.table = name ∧ t.isTranslation = true) ∧
        OneParent tables := by
  rw [linkFault?_eq_none, oneParent_iff (.of_map _ tableNames)]
  simp only [missingChild?_eq_none, translationFault?_eq_none, table?_eq_some tableNames,
    List.not_mem_nil, false_imp_iff, implies_true, true_and, and_assoc, forall_and]

/-- What the three passes of a check accept. -/
theorem fault?_eq_none_iff : fault? tables = none ↔ Coherent tables := by
  simp only [fault?, Option.or_eq_none_iff, clashAmong?_eq_none, pairwise_apart_iff]
  constructor
  · rintro ⟨⟨-, tableNames, entityNames⟩, links, acyclic⟩
    obtain ⟨subclasses, translations, oneParent⟩ := (linkFault?_eq_none_iff tableNames).mp links
    exact ⟨tableNames, entityNames, subclasses, translations, oneParent,
      (cycle?_eq_none_iff oneParent).mp acyclic⟩
  · intro coherent
    refine ⟨⟨by simp, coherent.tableNames, coherent.entityNames⟩, ?_, ?_⟩
    · exact (linkFault?_eq_none_iff coherent.tableNames).mpr
        ⟨coherent.subclasses, coherent.translations, coherent.oneParent⟩
    · exact (cycle?_eq_none_iff coherent.oneParent).mpr coherent.ascends

theorem ofTables_eq_ok {r : Registry} : ofTables tables = .ok r ↔ r.tables = tables := by
  unfold ofTables
  split
  · rename_i fault found
    simp only [reduceCtorEq, false_iff]
    rintro rfl
    exact absurd r.faultless (by simp [found])
  · exact ⟨fun built => by cases built; rfl, fun same => by cases same; rfl⟩

/-- Registration goes through when every table is described and no names clash. -/
theorem collect_eq_ok {earlier all : List Metadata} {described : List (Except Error Metadata)} :
    collect earlier described = .ok all ↔
      ∃ tables, described = tables.map .ok ∧ clashAmong? earlier tables = none ∧
        all = earlier ++ tables := by
  induction described generalizing earlier with
  | nil =>
    simp only [collect, Except.ok.injEq, List.nil_eq, List.map_eq_nil_iff]
    constructor
    · rintro rfl
      exact ⟨[], rfl, rfl, (List.append_nil _).symm⟩
    · rintro ⟨_, rfl, -, rfl⟩
      exact (List.append_nil _).symm
  | cons first rest ih =>
    cases first with
    | error e =>
      simp only [collect, reduceCtorEq, false_iff, not_exists, not_and]
      intro tables described
      cases tables <;> cases described
    | ok m =>
      simp only [collect]
      cases clash : clash? earlier m with
      | some fault =>
        simp only [reduceCtorEq, false_iff, not_exists, not_and]
        intro tables described free
        cases tables <;> cases described
        simp [clashAmong?, clash] at free
      | none =>
        simp only [ih]
        constructor
        · rintro ⟨tables, rfl, free, rfl⟩
          exact ⟨m :: tables, rfl, by simp [clashAmong?, clash, free], by simp⟩
        · rintro ⟨tables, same, free, rfl⟩
          cases tables <;> cases same
          simp only [clashAmong?, clash, Option.none_or] at free
          exact ⟨_, rfl, free, by simp⟩

/-- A registry has the tables that were described, and these are coherent. -/
theorem build_eq_ok {described : List (Except Error Metadata)} {r : Registry} :
    build described = .ok r ↔ described = r.tables.map .ok := by
  have free : clashAmong? [] r.tables = none := by
    have faultless := r.faultless
    rw [fault?, Option.or_eq_none_iff] at faultless
    exact faultless.1
  unfold build
  constructor
  · intro built
    split at built
    · cases built
    · rename_i all collected
      obtain ⟨tables, rfl, -, rfl⟩ := collect_eq_ok.mp collected
      rw [ofTables_eq_ok.mp built]
  · rintro rfl
    rw [collect_eq_ok.mpr ⟨r.tables, rfl, free, rfl⟩]
    exact ofTables_eq_ok.mpr rfl

variable (r : Registry)

theorem coherent : Coherent r.tables := fault?_eq_none_iff.mp r.faultless

theorem mem_subclassesOf {p c : Metadata} {discriminator : String} :
    (discriminator, c) ∈ r.subclassesOf p ↔
      c ∈ r.tables ∧ (discriminator, c.table) ∈ p.subclasses := by
  simp only [subclassesOf, find?, List.mem_filterMap, Option.map_eq_some_iff, Prod.mk.injEq,
    table?_eq_some r.coherent.tableNames]
  constructor
  · rintro ⟨⟨_, _⟩, isLink, _, ⟨isTable, rfl⟩, rfl, rfl⟩
    exact ⟨isTable, isLink⟩
  · rintro ⟨isTable, isLink⟩
    exact ⟨_, isLink, c, ⟨isTable, rfl⟩, rfl, rfl⟩

theorem parentOf?_eq_some {c p : Metadata} (isTable : c ∈ r.tables) :
    r.parentOf? c = some p ↔ p ∈ r.tables ∧ ∃ discriminator, (discriminator, c) ∈ r.subclassesOf p
    := by
  simp only [parentOf?, parent?_eq_some r.coherent.oneParent, IsParent, mem_subclassesOf, isTable,
    true_and, Metadata.children, List.mem_map, Prod.exists, exists_eq_right]

/-! ## Finding a table -/

/-- A look-up answers with the only table that a name stands for and fails for any other name. -/
def LooksUp (tables : List Metadata) (lookUp : String → Except Error Metadata)
    (standsFor : String → Metadata → Prop) (unknown : String → ConfigurationFault) : Prop :=
  ∀ name, (∀ m, lookUp name = .ok m ↔ m ∈ tables ∧ standsFor name m) ∧
    ((∀ m ∈ tables, ¬standsFor name m) → lookUp name = .error (.configuration (unknown name)))

theorem looksUp_of_unique {tables : List Metadata} {test : String → Metadata → Bool}
    {standsFor : String → Metadata → Prop} (unknown : String → ConfigurationFault)
    (tests : ∀ name m, test name m = true ↔ standsFor name m)
    (unique : ∀ name, ∀ a ∈ tables, ∀ b ∈ tables, standsFor name a → standsFor name b → a = b) :
    LooksUp tables (fun name =>
      match tables.find? (test name) with
      | some m => .ok m
      | none => .error (.configuration (unknown name))) standsFor unknown := by
  intro name
  have finds {m : Metadata} : tables.find? (test name) = some m ↔ m ∈ tables ∧ standsFor name m := by
    rw [← tests]
    refine find?_eq_some_of_unique fun a isTable b isTable' tested tested' => ?_
    exact unique name a isTable b isTable' ((tests name a).mp tested) ((tests name b).mp tested')
  simp only [← finds]
  cases found : tables.find? (test name) with
  | some m =>
    refine ⟨by simp, fun none => absurd (finds.mp found).2 (none m (finds.mp found).1)⟩
  | none => simp

theorem forTable_looksUp :
    LooksUp r.tables r.forTable (fun name m => m.table = name) .unknownTable := by
  refine looksUp_of_unique _ (fun _ _ => beq_iff_eq) fun name a isTable b isTable' named named' => ?_
  exact List.inj_on_of_nodup_map r.coherent.tableNames isTable isTable' (named.trans named'.symm)

/-- Two tables stand for one entity only if one of them is a translation. -/
theorem eq_of_entity {a b : Metadata} (isTable : a ∈ r.tables) (isTable' : b ∈ r.tables)
    {entity : String} {translations : Bool}
    (standsFor : a.entity = some entity ∧ a.isTranslation = translations)
    (standsFor' : b.entity = some entity ∧ b.isTranslation = translations) : a = b := by
  by_contra differ
  have distinct := List.pairwise_filterMap.mp (r.coherent.entityNames translations)
  have : Std.Symm fun m other : Metadata => ∀ entity, m.entity = some entity →
      ∀ entity', other.entity = some entity' → entity ≠ entity' :=
    ⟨fun _ _ apart entity named entity' named' => (apart entity' named' entity named).symm⟩
  exact distinct.forall (List.mem_filter.mpr ⟨isTable, beq_iff_eq.mpr standsFor.2⟩)
    (List.mem_filter.mpr ⟨isTable', beq_iff_eq.mpr standsFor'.2⟩) differ
    entity standsFor.1 entity standsFor'.1 rfl

/-- Which lists of described tables become a registry, and what it answers. -/
theorem build_iff_coherent (described : List (Except Error Metadata)) :
    ((∃ r, build described = .ok r) ↔
      ∃ tables, described = tables.map .ok ∧ Coherent tables) ∧
    ∀ r, build described = .ok r →
      described = r.tables.map .ok ∧
      (∀ c ∈ r.tables, ∀ p, r.parentOf? c = some p ↔
        p ∈ r.tables ∧ ∃ discriminator, (discriminator, c) ∈ r.subclassesOf p) ∧
      (∀ m ∈ r.tables, ancestor? r.tables r.size m = none) ∧
      LooksUp r.tables r.forTable (fun name m => m.table = name) .unknownTable ∧
      LooksUp r.tables r.forEntity
        (fun name m => m.entity = some name ∧ m.isTranslation = false) .unknownEntity ∧
      LooksUp r.tables r.forTranslationEntity
        (fun name m => m.entity = some name ∧ m.isTranslation = true)
        .unknownTranslationEntity := by
  constructor
  · constructor
    · rintro ⟨r, built⟩
      exact ⟨r.tables, build_eq_ok.mp built, r.coherent⟩
    · rintro ⟨tables, rfl, coherent⟩
      exact ⟨⟨tables, fault?_eq_none_iff.mpr coherent⟩, build_eq_ok.mpr rfl⟩
  · intro r built
    refine ⟨build_eq_ok.mp built, fun c isTable p => r.parentOf?_eq_some isTable,
      fun m isTable => ancestor?_eq_none r.coherent.oneParent r.coherent.ascends isTable,
      r.forTable_looksUp, ?_, ?_⟩
    · refine looksUp_of_unique _ (fun _ _ => ?_) fun name a isTable b isTable' => ?_
      · rw [Bool.and_eq_true, beq_iff_eq, Bool.not_eq_true']
      · exact r.eq_of_entity isTable isTable'
    · refine looksUp_of_unique _ (fun _ _ => ?_) fun name a isTable b isTable' => ?_
      · rw [Bool.and_eq_true, beq_iff_eq]
      · exact r.eq_of_entity isTable isTable'

/-- Animals, of which some are cats, with a table for their translated columns. -/
def animalTable : Metadata :=
  { Metadata.ofColumns "animal" [("id", .integer)] ["id"] with
    entity := some "Animal"
    subclasses := [("cat", "cat"), ("puma", "cat")]
    translation := some "animal_text" }

def catTable : Metadata :=
  { Metadata.ofColumns "cat" [("id", .integer), ("lives", .integer)] ["id"] with
    entity := some "Cat" }

def animalTextTable : Metadata :=
  { Metadata.ofColumns "animal_text"
      [("animal", .integer), ("language", .integer), ("name", .string)] ["animal", "language"] with
    entity := some "Animal", translationColumns := some ⟨"animal", "language"⟩ }

/-- A subclass under two discriminators has one parent, and one entity name may stand for a table
and for its translations. -/
theorem build_iff_coherent_animal :
    ∃ r, build [.ok animalTable, .ok catTable, .ok animalTextTable] = .ok r ∧
      r.parentOf? catTable = some animalTable ∧ ancestor? r.tables r.size catTable = none ∧
      r.forTable "cat" = .ok catTable ∧ r.forEntity "Animal" = .ok animalTable ∧
      r.forTranslationEntity "Animal" = .ok animalTextTable := by
  have faultless : fault? [animalTable, catTable, animalTextTable] = none := by decide
  have built : build [.ok animalTable, .ok catTable, .ok animalTextTable] = .ok ⟨_, faultless⟩ :=
    build_eq_ok.mpr rfl
  obtain ⟨-, parents, ends, tables, entities, translations⟩ := (build_iff_coherent _).2 _ built
  refine ⟨_, built, ?_, ?_, ?_, ?_, ?_⟩
  · exact (parents catTable (.tail _ (.head _)) animalTable).mpr
      ⟨.head _, "puma", .tail _ (.head _)⟩
  · exact ends catTable (.tail _ (.head _))
  · exact ((tables _).1 catTable).mpr ⟨.tail _ (.head _), rfl⟩
  · exact ((entities _).1 animalTable).mpr ⟨.head _, rfl, rfl⟩
  · exact ((translations _).1 animalTextTable).mpr ⟨.tail _ (.tail _ (.head _)), rfl, rfl⟩

end Registry
end Relmap
