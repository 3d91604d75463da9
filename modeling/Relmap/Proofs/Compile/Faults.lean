import Relmap.Proofs.Compile.Chains
import Relmap.Proofs.Compile.Inherited
import Relmap.Proofs.Compile.SideBySide
import Relmap.Proofs.Schema.Flags

/-!
# How criteria fail

Criteria fail because of what they say: a name that the schema does not have, a table that is to be
matched by one identifier column and has none or several, a pattern that is no text, or operands
that are too many or too few. What is checked again on the way never fails. A translated column is
the translation's own, so that a comparison enters one scope inside another at most once, and a
column at the end of a path keeps the type with which it was looked up. Main statement,
`compile_faults`.
-/

namespace Relmap

open Sql

/-- The errors that criteria can have. -/
inductive CriteriaError : Error → Prop
  | unknownTable (table : String) : CriteriaError (.configuration (.unknownTable table))
  | unknownEntity (entity : String) : CriteriaError (.configuration (.unknownEntity entity))
  | unknownProperty (property owner : String) (available : List String) :
    CriteriaError (.lookup (.unknownProperty property owner available))
  | unknownColumn (column table : String) (available : List String) :
    CriteriaError (.lookup (.unknownColumn column table available))
  | unknownPathColumn (field owner : String) (columns relationships : List String) :
    CriteriaError (.lookup (.unknownPathColumn field owner columns relationships))
  | noIdentifier (table : String) : CriteriaError (.mapping (.noIdentifier table))
  | compositeIdentifier (table : String) : CriteriaError (.mapping (.compositeIdentifier table))
  | textRequired (op : Operator) (field kind : String) :
    CriteriaError (.statement (.textRequired op field kind))
  | noOperands (kind : Composite) : CriteriaError (.statement (.noOperands kind))
  | operandCount (count : Nat) : CriteriaError (.statement (.operandCount count))

/-- If the computation fails, then with an error that criteria can have. -/
def FailsAsCriteria {α : Type} (outcome : Except Error α) : Prop :=
  ∀ e, outcome = .error e → CriteriaError e

namespace FailsAsCriteria

variable {α β : Type}

theorem ok (a : α) : FailsAsCriteria (.ok a : Except Error α) := nofun

theorem error {e : Error} (fault : CriteriaError e) :
    FailsAsCriteria (.error e : Except Error α) := by
  rintro _ ⟨⟩
  exact fault

theorem bind {x : Except Error α} {f : α → Except Error β} (first : FailsAsCriteria x)
    (later : ∀ a, x = .ok a → FailsAsCriteria (f a)) : FailsAsCriteria (x >>= f) := by
  intro e failed
  rcases bind_eq_error.mp failed with here | ⟨a, yields, there⟩
  · exact first e here
  · exact later a yields e there

end FailsAsCriteria

/-! ## Look-ups -/

theorem Metadata.identifierColumn_fails (m : Metadata) : FailsAsCriteria m.identifierColumn := by
  unfold identifierColumn
  split
  · exact .ok _
  · exact .error (.noIdentifier _)
  · exact .error (.compositeIdentifier _)

theorem Metadata.relationshipOf_fails (m : Metadata) (property : String) :
    FailsAsCriteria (m.relationshipOf property) := by
  unfold relationshipOf
  split
  · exact .ok _
  · exact .error (.unknownProperty _ _ _)

theorem linkColumn_fails (m : Metadata) (relationship : Relationship) :
    FailsAsCriteria (linkColumn m relationship) := by
  unfold linkColumn
  split
  · exact m.identifierColumn_fails
  · exact .ok _

namespace Registry

variable {r : Registry} {m t : Metadata} {column table : String} {type : ColumnType}

theorem forEntity_fails (r : Registry) (entity : String) :
    FailsAsCriteria (r.forEntity entity) := by
  unfold forEntity
  split
  · exact .ok _
  · exact .error (.unknownEntity _)

theorem resolve_fails (r : Registry) (m : Metadata) (column : String) :
    FailsAsCriteria (r.resolve m column) := by
  unfold resolve
  split
  · exact .ok _
  · exact .error (.unknownColumn _ _ _)

/-- A translated column is the translation's own, of the same type. -/
theorem resolve_translation (reached : r.resolve m column = .ok ⟨type, .translation table⟩) :
    ∃ t, r.translationOf m = .ok t ∧ t.table = table ∧
      r.resolve t column = .ok ⟨type, .direct⟩ := by
  rw [resolve_eq_ok, get?_reachableColumns] at reached
  rcases Option.or_eq_some_iff.mp reached with own | ⟨-, reached⟩
  · simp at own
  rcases Option.or_eq_some_iff.mp reached with translated | ⟨-, inherited⟩
  · obtain ⟨t, linked, found⟩ := Option.bind_eq_some_iff.mp translated
    obtain ⟨_, declared, same⟩ := Option.map_eq_some_iff.mp found
    cases same
    refine ⟨t, ?_, rfl, resolve_of_declared declared⟩
    rw [translationOf, linked]
  · obtain ⟨table', origin⟩ := origin_inheritedColumn? inherited
    cases origin

/-- Links to translations are checked when the registry is built. -/
theorem exists_translatableIdColumn (registered : m ∈ r.tables)
    (linked : r.translationOf m = .ok t) : ∃ id, t.translatableIdColumn = .ok id := by
  unfold translationOf at linked
  split at linked
  · rename_i t' found
    cases linked
    obtain ⟨name, named, isTable⟩ := Option.bind_eq_some_iff.mp found
    obtain ⟨other, registered', named', isTranslation⟩ :=
      r.coherent.translations m registered name named
    have same : r.find? name = some other :=
      (table?_eq_some r.coherent.tableNames).mpr ⟨registered', named'⟩
    obtain rfl := Option.some.inj (isTable.symm.trans same)
    obtain ⟨columns, has⟩ := Option.isSome_iff_exists.mp isTranslation
    refine ⟨columns.translatableId, ?_⟩
    rw [Metadata.translatableIdColumn, Metadata.requireTranslation, has]
    rfl
  · cases linked

end Registry

/-! ## Comparisons of reached columns -/

theorem compareColumn_fails (column : Expr) (field : String) (n : Nat) (op : Operator)
    (value : Value) (type : ColumnType) :
    FailsAsCriteria (compareColumn column field n op value type) := by
  have byPattern : FailsAsCriteria (comparedByPattern column field n op value) := by
    unfold comparedByPattern
    split
    · exact .ok _
    · exact .error (.textRequired _ _ _)
  unfold compareColumn
  split <;> first | exact byPattern | exact .ok _

namespace Scope

/-- The comparison of a translated column, made from one in the scope of the translation. -/
def throughTranslation (s : Scope) (link : Metadata × String × String) (c : Compared) : Compared :=
  { c with
    condition := .inQuery (.of s.aliasName link.2.2)
      ((s.translationQuery link.1 link.2.1 link.2.2).where c.condition) }

/-- Compares a column by entering the scope of the translation where the column is translated, which
may lead on from there, and gives up after a number of scopes. -/
def compareWithin (field : String) (n : Nat) (op : Operator) (value : Value) :
    Nat → Scope → Option (Except Error Compared)
  | 0, _ => none
  | scopes + 1, s =>
    match s.registry.resolve s.metadata field with
    | .error e => some (.error e)
    | .ok ⟨type, .direct⟩ => some (compareColumn (.of s.aliasName field) field n op value type)
    | .ok ⟨type, .inherited table⟩ => some (s.compareInherited table field n op value type)
    | .ok ⟨_, .translation _⟩ =>
      match s.translationLink with
      | .error e => some (.error e)
      | .ok link =>
        (compareWithin field n op value scopes ⟨s.registry, link.1, translationAlias⟩).map
          (·.map (s.throughTranslation link))

variable {s : Scope}

theorem compareTranslated_eq (field : String) (n : Nat) (op : Operator) (value : Value)
    (type : ColumnType) :
    s.compareTranslated field n op value type = s.translationLink >>= fun link =>
      (compareColumn (.of translationAlias field) field n op value type).map
        (s.throughTranslation link) := by
  simp only [compareTranslated, translationLink, bind_assoc, pure_bind]
  rfl

theorem compareWithin_own (n scopes : Nat) {field : String} (op : Operator) (value : Value)
    {type : ColumnType} (own : s.registry.resolve s.metadata field = .ok ⟨type, .direct⟩) :
    compareWithin field n op value (scopes + 1) s =
      some (compareColumn (.of s.aliasName field) field n op value type) := by
  unfold compareWithin
  rw [own]

/-- A comparison enters at most one scope inside another. -/
theorem compareWithin_eq (s : Scope) (n : Nat) (field : String) (op : Operator) (value : Value)
    (scopes : Nat) :
    compareWithin field n op value (scopes + 2) s = some (s.compareReached n field op value) := by
  unfold compareWithin compareReached
  rcases resolved : s.registry.resolve s.metadata field with e | ⟨type, _ | table | table⟩
  · rfl
  · rfl
  · obtain ⟨t, isTranslation, -, own⟩ := Registry.resolve_translation resolved
    simp only [compareTranslated_eq]
    cases linked : s.translationLink with
    | error e => rfl
    | ok link =>
      obtain ⟨t', id, identifier⟩ := link
      -- The scope that is entered is that of the translation, which has the column itself.
      obtain rfl : t = t' := by
        simp only [translationLink, isTranslation, bind_eq_ok, pure_eq_ok] at linked
        obtain ⟨_, ⟨⟩, _, -, _, -, ⟨⟩⟩ := linked
        rfl
      have entered := compareWithin_own (s := ⟨s.registry, t, translationAlias⟩) n scopes op value own
      dsimp only
      rw [entered]
      rfl
  · rfl

example : compareWithin "year" 0 .eq (.int 1984) 1 ⟨bookRegistry, bookTable, "b"⟩ = none := rfl

theorem compareInherited_fails {field table : String} {n : Nat} {op : Operator} {value : Value}
    {type type' : ColumnType}
    (inherited : s.registry.resolve s.metadata field = .ok ⟨type, .inherited table⟩) :
    FailsAsCriteria (s.compareInherited table field n op value type') := by
  obtain ⟨discriminator, child, isSubclass, isTable, -⟩ := Registry.resolve_inherited inherited
  unfold compareInherited
  split
  · exact compareColumn_fails _ _ _ _ _ _
  · rename_i none
    exact absurd (beq_iff_eq.mpr isTable) (List.find?_eq_none.mp none _ isSubclass)

theorem compareTranslated_fails (registered : s.metadata ∈ s.registry.tables)
    {field table : String} {n : Nat} {op : Operator} {value : Value} {type : ColumnType}
    (translated : s.registry.resolve s.metadata field = .ok ⟨type, .translation table⟩) :
    FailsAsCriteria (s.compareTranslated field n op value type) := by
  obtain ⟨t, isTranslation, -, -⟩ := Registry.resolve_translation translated
  obtain ⟨id, isId⟩ := Registry.exists_translatableIdColumn registered isTranslation
  unfold compareTranslated
  rw [isTranslation]
  refine .bind (.ok t) ?_
  rintro _ ⟨⟩
  rw [isId]
  refine .bind (.ok id) fun _ _ => ?_
  refine .bind s.metadata.identifierColumn_fails fun _ _ => ?_
  exact .bind (compareColumn_fails _ _ _ _ _ _) fun _ _ => .ok _

theorem compareReached_fails (registered : s.metadata ∈ s.registry.tables) (n : Nat)
    (field : String) (op : Operator) (value : Value) :
    FailsAsCriteria (s.compareReached n field op value) := by
  unfold compareReached
  split
  · rename_i e resolved
    exact .error (s.registry.resolve_fails _ _ e resolved)
  · exact compareColumn_fails _ _ _ _ _ _
  · exact compareTranslated_fails registered ‹_›
  · exact compareInherited_fails ‹_›

end Scope

/-! ## Paths -/

theorem steps_fail {r : Registry} {properties : List String} {m : Metadata} {source : String} :
    FailsAsCriteria (steps r m source properties) := by
  induction properties generalizing m source with
  | nil => exact .ok _
  | cons property rest ih =>
    rw [steps]
    refine .bind (m.relationshipOf_fails property) fun relationship _ => ?_
    refine .bind (r.forEntity_fails _) fun target _ => ?_
    refine .bind (linkColumn_fails m relationship) fun column _ => ?_
    exact .bind ih fun _ _ => .ok _

theorem Scope.resolvePath_fails (s : Scope) (path : String) :
    FailsAsCriteria (s.resolvePath path) := by
  unfold resolvePath
  refine .bind steps_fail fun found _ => ?_
  dsimp only
  split
  · exact .ok _
  · exact .error (.unknownPathColumn _ _ _ _)

theorem Hop.hasColumns_join (h : Hop) (type : JoinType) {q : Select}
    (opened : type = .subSelect ∨ q.hasColumns = true) : (h.join type q).hasColumns = true := by
  cases type with
  | joined =>
    have kept : q.hasColumns = true := by simpa using opened
    rw [join]
    split
    · exact kept
    · exact kept
  | subSelect =>
    have started : (h.opened q).hasColumns = true := by
      unfold Hop.opened
      split
      · assumption
      · simp [Select.hasColumns, Select.select, Select.from]
    rw [join_subSelect]
    split
    · exact started
    · exact started

/-- The first of the steps that are joined inside opens the sub-select. -/
theorem hasColumns_joinInner {root : String} {first : Step} {rest : List Step}
    (opens : first.isJoined = false) : (joinInner root (first :: rest)).hasColumns = true := by
  have kept (q : Select) (opened : q.hasColumns = true) : (rest.foldl (fun q step =>
      (step.hop root).join step.relationship.join q) q).hasColumns = true := by
    induction rest generalizing q with
    | nil => exact opened
    | cons step _ ih => exact ih _ (Hop.hasColumns_join _ _ (.inr opened))
  exact kept _ (Hop.hasColumns_join _ _ (.inl (isJoined_eq_false.mp opens)))

/-- A path that was looked up is closed: the sub-select that is then asked for has been opened. -/
theorem exists_closePath (steps : List Step) (condition : Expr) :
    ∃ closed, closePath steps condition = .ok closed := by
  unfold closePath
  split
  · exact ⟨condition, rfl⟩
  · rename_i first rest inner
    have opens := isJoined_of_innerSteps inner
    rw [isJoined_eq_false.mp opens, Hop.close, hasColumns_joinInner opens]
    exact ⟨_, rfl⟩

theorem ResolvedPath.compare_fails (p : ResolvedPath) (n : Nat) (op : Operator) (value : Value) :
    FailsAsCriteria (p.compare n op value) := by
  unfold compare
  refine .bind (compareColumn_fails _ _ _ _ _ _) fun inner _ => ?_
  obtain ⟨closed, isClosed⟩ := exists_closePath p.steps inner.condition
  rw [isClosed]
  exact .bind (.ok closed) fun _ _ => .ok _

/-- The column that a path ends in has the type under which it was looked up. -/
theorem Scope.columnType_of_resolvePath {s : Scope} {path : String} {p : ResolvedPath}
    (resolved : s.resolvePath path = .ok p) :
    s.registry.columnType p.table p.field = .ok p.type := by
  obtain ⟨-, -, -, declared⟩ := resolvePath_ok resolved
  exact Registry.columnType_of_declared declared

/-! ## Criteria -/

theorem comparison_fails {s : Scope} (registered : s.metadata ∈ s.registry.tables)
    (field : String) (op : Operator) (value : Value) (w : Walk) :
    FailsAsCriteria (w.comparison s field op value).1 := by
  have taken {w : Walk} {outcome : Except Error Compared} (fails : FailsAsCriteria outcome) :
      FailsAsCriteria (w.take outcome).1 := by
    cases outcome with
    | error e => exact .error (fails e rfl)
    | ok c => exact .ok _
  unfold Walk.comparison
  split
  · split
    · rename_i e resolved
      exact .error (s.resolvePath_fails field e resolved)
    · exact taken (ResolvedPath.compare_fails _ _ _ _)
  · exact taken (Scope.compareReached_fails registered _ _ _ _)

theorem compile_fails (r : Registry) (table aliasName : String) (c : Criteria) :
    FailsAsCriteria (compile r table aliasName c) := by
  unfold compile Registry.scope
  cases found : r.forTable table with
  | error e =>
    unfold Registry.forTable at found
    split at found
    · cases found
    · cases found
      exact .error (.unknownTable table)
  | ok m =>
    have registered : m ∈ r.tables := ((r.forTable_looksUp table).1 m |>.mp found).1
    refine .bind (.ok _) ?_
    rintro _ ⟨⟩
    obtain ⟨-, fails⟩ := keeps_criteria (s := ⟨r, m, aliasName⟩) (fun _ => True) CriteriaError
      (fun field op value w _ => ⟨trivial, comparison_fails registered field op value w⟩)
      .noOperands .operandCount c (w := .start) trivial
    split
    · exact .ok _
    · rename_i e w walked
      exact .error (fails e (by rw [walked]))

/-- A translated column is the translation's own, so that a comparison enters at most one scope inside
another. The type of a column that a path ends in is always found. Criteria fail because of what they
say, never inside the library, for a query that was not started or for a translation that is missing
or is none. -/
theorem compile_faults (r : Registry) (table aliasName : String) (c : Criteria) :
    (∀ (s : Scope) (field : String) (type : ColumnType) (t : String),
      s.registry.resolve s.metadata field = .ok ⟨type, .translation t⟩ →
      ∃ translation, s.registry.translationOf s.metadata = .ok translation ∧
        translation.table = t ∧ s.registry.resolve translation field = .ok ⟨type, .direct⟩) ∧
    (∀ (s : Scope) (n : Nat) (field : String) (op : Operator) (value : Value) (scopes : Nat),
      Scope.compareWithin field n op value (scopes + 2) s =
        some (s.compareReached n field op value)) ∧
    (∀ (s : Scope) (path : String) (p : ResolvedPath), s.resolvePath path = .ok p →
      s.registry.columnType p.table p.field = .ok p.type) ∧
    ∀ e, compile r table aliasName c = .error e →
      CriteriaError e ∧ e.kind ≠ .internal ∧ e ≠ .lookup .queryNotStarted ∧
        ∀ m, e ≠ .lookup (.noTranslation m) ∧ e ≠ .lookup (.notTranslationTable m) := by
  refine ⟨fun s field type t reached => Registry.resolve_translation reached, Scope.compareWithin_eq,
    fun s path p resolved => s.columnType_of_resolvePath resolved, fun e failed => ?_⟩
  have fault := compile_fails r table aliasName c e failed
  refine ⟨fault, ?_⟩
  cases fault <;> exact ⟨nofun, nofun, fun _ => ⟨nofun, nofun⟩⟩

/-- A translated column, a path by sub-select, and a comparison at its end with a pattern that is no
text. -/
theorem compile_faults_size :
    (∃ translation, bookRegistry.translationOf bookTable = .ok translation ∧
      translation.table = "book_text" ∧
      bookRegistry.resolve translation "year" = .ok ⟨.integer, .direct⟩) ∧
    ∃ p e, Scope.resolvePath ⟨novelRegistry, novelTable, "n"⟩ "author.country.cities.size" = .ok p ∧
      novelRegistry.columnType p.table p.field = .ok p.type ∧
      compile novelRegistry "novel" "n"
        (.expression (.comparison "author.country.cities.size" .contains (.int 3))) = .error e ∧
      CriteriaError e ∧ e.kind ≠ .internal := by
  obtain ⟨p, resolved⟩ : ∃ p, Scope.resolvePath ⟨novelRegistry, novelTable, "n"⟩
      "author.country.cities.size" = .ok p := ⟨_, rfl⟩
  obtain ⟨e, failed⟩ : ∃ e, compile novelRegistry "novel" "n"
      (.expression (.comparison "author.country.cities.size" .contains (.int 3))) = .error e :=
    ⟨_, rfl⟩
  obtain ⟨translated, -, types, faults⟩ := compile_faults novelRegistry "novel" "n"
    (.expression (.comparison "author.country.cities.size" .contains (.int 3)))
  obtain ⟨fault, notInternal, -⟩ := faults e failed
  exact ⟨translated ⟨bookRegistry, bookTable, "b"⟩ "year" .integer "book_text" rfl,
    p, e, resolved, types _ _ p resolved, failed, fault, notInternal⟩

end Relmap
