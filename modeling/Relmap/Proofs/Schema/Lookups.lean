import Relmap.Proofs.Keyed
import Relmap.Schema.Metadata
import Mathlib.Data.List.Nodup

/-!
# Extended tables

A table takes subclasses, relationships and a translation one call at a time, and some of the calls
fail. Its relationships are found by property and, those with a link of their own outside the
identifier, by column. Main statement, `lookups_of_calls`: the look-ups find the stored
relationships and nothing else, and a call fails for one of three reasons (`Refuses`).

The look-ups search the list of relationships. `Indexed` finds them by place through two maps, which
a call writes next to the list and under other conditions; by `after_indexed` and `run_indexed` they
stay the maps of the list, so that a place is never outside it.
-/

namespace Relmap

/-- A call that extends a table. -/
inductive Extension where
  | subclass (discriminator table : String)
  | relationship (r : Relationship)
  | translation (table : String)
deriving DecidableEq, Repr

namespace Metadata

/-- The table before the first call. -/
def blank (m : Metadata) : Metadata :=
  { m with subclasses := [], translation := none, relationships := [] }

/-- The table after a call, or why the call fails. -/
def extended (m : Metadata) : Extension → Except Error Metadata
  | .subclass discriminator table => m.addSubclass discriminator table
  | .relationship r => m.addRelationship r
  | .translation table => .ok (m.setTranslation table)

/-- A call that fails is passed over. -/
def extend (m : Metadata) (x : Extension) : Metadata :=
  match m.extended x with
  | .ok m' => m'
  | .error _ => m

/-- The table after calls, of which some may fail. -/
def extendAll (m : Metadata) (calls : List Extension) : Metadata := calls.foldl extend m

/-- The table with what a call asks for at the end of what was stored. -/
def written (m : Metadata) : Extension → Metadata
  | .subclass discriminator table =>
    { m with subclasses := m.subclasses ++ [(discriminator, table)] }
  | .relationship r => { m with relationships := m.relationships ++ [r] }
  | .translation table => { m with translation := some table }

/-- Why a call fails. -/
inductive Refuses (m : Metadata) : Extension → Error → Prop
  | discriminator {discriminator table : String} :
      discriminator ∈ m.subclasses.names →
        Refuses m (.subclass discriminator table) (.mapping (.discriminatorTaken discriminator))
  | property {r other : Relationship} :
      other ∈ m.relationships → other.property = r.property →
        Refuses m (.relationship r) (.mapping (.propertyTaken r.property))
  | column {r other : Relationship} :
      (∀ stored ∈ m.relationships, stored.property ≠ r.property) →
      r.kind = .manyToOne → r.foreignKey ∉ m.identifier →
      other ∈ m.relationships → other.kind = .manyToOne → other.foreignKey = r.foreignKey →
        Refuses m (.relationship r) (.mapping (.foreignColumnTaken r.foreignKey))

/-- Nothing is stored twice under one name. -/
structure Distinct (m : Metadata) : Prop where
  discriminators : m.subclasses.names.Nodup
  properties : m.properties.Nodup
  foreignColumns : m.foreignColumns.Nodup

variable {m m' : Metadata} {r : Relationship} {x : Extension}

theorem hasForeignColumn_iff :
    m.hasForeignColumn r = true ↔ r.kind = .manyToOne ∧ r.foreignKey ∉ m.identifier := by
  rw [hasForeignColumn, Relationship.isToMany]
  cases r.kind <;> simp

theorem mem_properties {property : String} :
    property ∈ m.properties ↔ ∃ r ∈ m.relationships, r.property = property := by
  simp [properties]

theorem mem_foreignColumns {column : String} :
    column ∈ m.foreignColumns ↔ ∃ r ∈ m.relationships,
      m.hasForeignColumn r = true ∧ r.foreignKey = column := by
  simp [foreignColumns, and_assoc]

/-! ## What a call does -/

theorem addRelationship_cases (m : Metadata) (r : Relationship) :
    (∃ e, m.Refuses (.relationship r) e ∧ m.addRelationship r = .error e) ∨
      (∀ e, ¬m.Refuses (.relationship r) e) ∧
        m.addRelationship r = .ok (m.written (.relationship r)) := by
  unfold addRelationship
  by_cases taken : r.property ∈ m.properties
  · obtain ⟨other, stored, same⟩ := mem_properties.mp taken
    rw [if_pos (by simpa using taken)]
    exact .inl ⟨_, .property stored same, rfl⟩
  have new : ∀ stored ∈ m.relationships, stored.property ≠ r.property := by
    intro stored member same
    exact taken (mem_properties.mpr ⟨stored, member, same⟩)
  rw [if_neg (by simpa using taken)]
  by_cases clash : m.hasForeignColumn r = true ∧ r.foreignKey ∈ m.foreignColumns
  · obtain ⟨toOne, outside⟩ := hasForeignColumn_iff.mp clash.1
    obtain ⟨other, stored, led, same⟩ := mem_foreignColumns.mp clash.2
    rw [if_pos (by simpa using clash)]
    exact .inl ⟨_, .column new toOne outside stored (hasForeignColumn_iff.mp led).1 same, rfl⟩
  · rw [if_neg (by simpa using clash)]
    refine .inr ⟨?_, rfl⟩
    rintro e (_ | ⟨stored, same⟩ | ⟨-, toOne, outside, stored, toOne', same⟩)
    · exact new _ stored same
    · refine clash ⟨hasForeignColumn_iff.mpr ⟨toOne, outside⟩, mem_foreignColumns.mpr ?_⟩
      exact ⟨_, stored, hasForeignColumn_iff.mpr ⟨toOne', same ▸ outside⟩, same⟩

/-- A call fails for its reason, or it writes what it asks for. -/
theorem extended_cases (m : Metadata) (x : Extension) :
    (∃ e, m.Refuses x e ∧ m.extended x = .error e) ∨
      (∀ e, ¬m.Refuses x e) ∧ m.extended x = .ok (m.written x) := by
  cases x with
  | subclass discriminator table =>
    rw [extended, addSubclass]
    by_cases taken : discriminator ∈ m.subclasses.names
    · rw [if_pos ((Keyed.has_iff_mem_names _ _).mpr taken)]
      exact .inl ⟨_, .discriminator taken, rfl⟩
    · rw [if_neg (mt (Keyed.has_iff_mem_names _ _).mp taken), Keyed.insert_of_absent taken]
      refine .inr ⟨?_, rfl⟩
      rintro e ⟨present⟩
      exact taken present
  | relationship r => exact m.addRelationship_cases r
  | translation table => exact .inr ⟨nofun, rfl⟩

theorem foreignColumns_relationship (m : Metadata) (r : Relationship) :
    (m.written (.relationship r)).foreignColumns =
      m.foreignColumns ++ if m.hasForeignColumn r then [r.foreignKey] else [] := by
  show ((m.relationships ++ [r]).filter m.hasForeignColumn).map (·.foreignKey) = _
  rw [List.filter_append, List.map_append, List.filter_singleton]
  cases m.hasForeignColumn r <;> rfl

/-- A call that does not fail writes nothing a second time. -/
theorem Distinct.written (distinct : m.Distinct) (accepted : ∀ e, ¬m.Refuses x e) :
    (m.written x).Distinct := by
  obtain ⟨discriminators, properties, foreignColumns⟩ := distinct
  cases x with
  | subclass discriminator table =>
    have absent : discriminator ∉ m.subclasses.names := fun taken =>
      accepted _ (.discriminator taken)
    refine ⟨?_, properties, foreignColumns⟩
    rw [show (m.written (.subclass discriminator table)).subclasses.names =
      m.subclasses.names ++ [discriminator] from List.map_append]
    exact discriminators.append (List.nodup_singleton _) (List.disjoint_singleton.mpr absent)
  | relationship r =>
    have new : r.property ∉ m.properties := by
      intro taken
      obtain ⟨other, stored, same⟩ := mem_properties.mp taken
      exact accepted _ (.property stored same)
    refine ⟨discriminators, ?_, ?_⟩
    · rw [show (m.written (.relationship r)).properties = m.properties ++ [r.property] from
        List.map_append]
      exact properties.append (List.nodup_singleton _) (List.disjoint_singleton.mpr new)
    · rw [foreignColumns_relationship]
      split
      · rename_i led
        refine foreignColumns.append (List.nodup_singleton _) (List.disjoint_singleton.mpr ?_)
        intro taken
        obtain ⟨toOne, outside⟩ := hasForeignColumn_iff.mp led
        obtain ⟨other, stored, led', same⟩ := mem_foreignColumns.mp taken
        refine accepted _ (.column ?_ toOne outside stored (hasForeignColumn_iff.mp led').1 same)
        intro other member same
        exact new (mem_properties.mpr ⟨other, member, same⟩)
      · rw [List.append_nil]
        exact foreignColumns
  | translation table => exact ⟨discriminators, properties, foreignColumns⟩

theorem Distinct.extend (distinct : m.Distinct) (x : Extension) : (m.extend x).Distinct := by
  unfold Metadata.extend
  rcases m.extended_cases x with ⟨e, -, failed⟩ | ⟨accepted, ok⟩
  · rw [failed]
    exact distinct
  · rw [ok]
    exact distinct.written accepted

theorem distinct_extendAll (m : Metadata) (calls : List Extension) :
    (m.blank.extendAll calls).Distinct :=
  List.foldlRecOn calls extend (motive := Distinct) ⟨.nil, .nil, .nil⟩
    fun _ distinct x _ => distinct.extend x

theorem identifier_extend (m : Metadata) (x : Extension) :
    (m.extend x).identifier = m.identifier := by
  unfold extend
  rcases m.extended_cases x with ⟨e, -, failed⟩ | ⟨-, ok⟩
  · rw [failed]
  · rw [ok]
    cases x <;> rfl

theorem identifier_extendAll (m : Metadata) (calls : List Extension) :
    (m.extendAll calls).identifier = m.identifier :=
  List.foldlRecOn calls extend (motive := fun t => t.identifier = m.identifier) rfl
    fun t same x _ => (t.identifier_extend x).trans same

/-! ## What is found -/

theorem relationshipOf_eq_ok (distinct : m.Distinct) {property : String} :
    m.relationshipOf property = .ok r ↔ r ∈ m.relationships ∧ r.property = property := by
  rw [← find?_of_distinct distinct.properties, relationshipOf]
  cases m.relationships.find? fun other => other.property == property <;> simp

theorem relationshipThrough_eq_ok (distinct : m.Distinct) {column : String} :
    m.relationshipThrough column = .ok r ↔ column ∉ m.identifier ∧ r ∈ m.relationships ∧
      r.kind = .manyToOne ∧ r.foreignKey = column := by
  have found : m.relationshipThrough column = .ok r ↔
      r ∈ m.relationships.filter m.hasForeignColumn ∧ r.foreignKey = column := by
    rw [← find?_of_distinct distinct.foreignColumns, relationshipThrough]
    cases (m.relationships.filter m.hasForeignColumn).find? fun other =>
      other.foreignKey == column <;> simp
  rw [found, List.mem_filter, hasForeignColumn_iff]
  constructor
  · rintro ⟨⟨stored, toOne, outside⟩, rfl⟩
    exact ⟨outside, stored, toOne, rfl⟩
  · rintro ⟨outside, stored, toOne, rfl⟩
    exact ⟨⟨stored, toOne, outside⟩, rfl⟩

/-- At most one relationship leads through a column outside the identifier. -/
theorem countP_through (distinct : m.Distinct) {column : String} (outside : column ∉ m.identifier) :
    m.relationships.countP (fun r => r.kind == .manyToOne && r.foreignKey == column) ≤ 1 := by
  have once := List.nodup_iff_count_le_one.mp distinct.foreignColumns column
  rw [foreignColumns, List.count, List.countP_map, List.countP_filter] at once
  refine Nat.le_trans (Nat.le_of_eq (List.countP_congr ?_)) once
  intro r _
  simp only [Bool.and_eq_true, beq_iff_eq, Function.comp_apply, hasForeignColumn_iff]
  constructor
  · rintro ⟨toOne, rfl⟩
    exact ⟨rfl, toOne, outside⟩
  · rintro ⟨same, toOne, -⟩
    exact ⟨toOne, same⟩

end Metadata

/-! ## Look-ups by place -/

/-- A table with its relationships in a list and two maps to places in the list. -/
structure Indexed where
  metadata : Metadata
  byProperty : Keyed Nat
  byColumn : Keyed Nat
deriving Repr

namespace Indexed

/-- Nothing is stored, so nothing has a place. -/
def ofBlank (m : Metadata) : Indexed := ⟨m.blank, [], []⟩

/-- What is at the place of a name. There is no answer for a place outside the list. -/
def lookup (s : Indexed) (places : Keyed Nat) (name : String)
    (missing : String → String → List String → LookupFault) : Option (Except Error Relationship) :=
  match places.get? name with
  | some place => s.metadata.relationships[place]?.map .ok
  | none => some (.error (.lookup (missing name s.metadata.displayName places.names)))

def relationshipOf (s : Indexed) (property : String) : Option (Except Error Relationship) :=
  s.lookup s.byProperty property .unknownProperty

def relationshipThrough (s : Indexed) (column : String) : Option (Except Error Relationship) :=
  s.lookup s.byColumn column .unknownForeignColumn

/-- The checks ask the maps, which are written before the list. -/
def after (s : Indexed) : Extension → Except Error Unit × Indexed
  | .subclass discriminator table =>
    if s.metadata.subclasses.has discriminator then
      (.error (.mapping (.discriminatorTaken discriminator)), s)
    else
      let subclasses := s.metadata.subclasses.insert discriminator table
      (.ok (), { s with metadata := { s.metadata with subclasses } })
  | .relationship r =>
    if s.byProperty.has r.property then (.error (.mapping (.propertyTaken r.property)), s)
    else
      let led := s.metadata.hasForeignColumn r
      if led && s.byColumn.has r.foreignKey then
        (.error (.mapping (.foreignColumnTaken r.foreignKey)), s)
      else
        let place := s.metadata.relationships.length
        let byProperty := s.byProperty.insert r.property place
        let byColumn := if led then s.byColumn.insert r.foreignKey place else s.byColumn
        let relationships := s.metadata.relationships ++ [r]
        (.ok (), ⟨{ s.metadata with relationships }, byProperty, byColumn⟩)
  | .translation table => (.ok (), { s with metadata := s.metadata.setTranslation table })

/-- The table after calls, whatever they answer. -/
def run (s : Indexed) (calls : List Extension) : Indexed :=
  calls.foldl (fun s x => (s.after x).2) s

/-- The names of the relationships that are kept, with their places from a first one on. -/
def places (name : Relationship → String) (keep : Relationship → Bool) (start : Nat) :
    List Relationship → Keyed Nat
  | [] => []
  | r :: rest =>
    if keep r then (name r, start) :: places name keep (start + 1) rest
    else places name keep (start + 1) rest

section

variable {name : Relationship → String} {keep : Relationship → Bool} {start : Nat}
  {rs : List Relationship}

theorem names_places :
    (places name keep start rs).names = (rs.filter keep).map name := by
  induction rs generalizing start with
  | nil => rfl
  | cons r rest ih =>
    rw [places, List.filter_cons]
    split
    · rw [List.map_cons, ← ih]
      rfl
    · exact ih

theorem places_append (r : Relationship) :
    places name keep start (rs ++ [r]) = places name keep start rs ++
      if keep r then [(name r, start + rs.length)] else [] := by
  induction rs generalizing start with
  | nil => rfl
  | cons first rest ih =>
    rw [List.cons_append, places, places, ih, List.length_cons,
      show start + 1 + rest.length = start + (rest.length + 1) by omega]
    split <;> rfl

/-- The place of a name is that of the first relationship with the name. -/
theorem get?_places (start : Nat) {wanted : String} {r : Relationship}
    (found : (rs.filter keep).find? (fun other => name other == wanted) = some r) :
    ∃ i, (places name keep start rs).get? wanted = some (start + i) ∧ rs[i]? = some r := by
  induction rs generalizing start with
  | nil => cases found
  | cons first rest ih =>
    rw [List.filter_cons] at found
    rw [places]
    split at found
    · rename_i kept
      rw [if_pos kept, Keyed.get?]
      rw [List.find?_cons] at found
      split at found
      · rename_i named
        obtain rfl := Option.some.inj found
        exact ⟨0, by rw [if_pos (by simpa using named)]; rfl, rfl⟩
      · rename_i other
        obtain ⟨i, place, here⟩ := ih (start + 1) found
        refine ⟨i + 1, ?_, here⟩
        rw [if_neg (by simpa using other), place, show start + 1 + i = start + (i + 1) by omega]
    · rename_i dropped
      obtain ⟨i, place, here⟩ := ih (start + 1) found
      refine ⟨i + 1, ?_, here⟩
      rw [if_neg dropped, place, show start + 1 + i = start + (i + 1) by omega]

end

end Indexed

/-- The table with the maps that its list of relationships has. -/
def Metadata.indexed (m : Metadata) : Indexed :=
  ⟨m, Indexed.places (·.property) (fun _ => true) 0 m.relationships,
    Indexed.places (·.foreignKey) m.hasForeignColumn 0 m.relationships⟩

namespace Indexed

variable {m : Metadata}

theorem names_byProperty (m : Metadata) : m.indexed.byProperty.names = m.properties := by
  rw [Metadata.indexed, names_places, List.filter_true]
  rfl

theorem names_byColumn (m : Metadata) : m.indexed.byColumn.names = m.foreignColumns :=
  names_places

theorem lookup_places {name : Relationship → String} {keep : Relationship → Bool}
    {missing : String → String → List String → LookupFault} {wanted : String} :
    m.indexed.lookup (places name keep 0 m.relationships) wanted missing =
      some (match (m.relationships.filter keep).find? fun r => name r == wanted with
        | some r => .ok r
        | none => .error
          (.lookup (missing wanted m.displayName ((m.relationships.filter keep).map name)))) := by
  unfold lookup
  cases found : (m.relationships.filter keep).find? fun r => name r == wanted with
  | none =>
    have absent : (places name keep 0 m.relationships).get? wanted = none := by
      refine Keyed.get?_of_absent ?_
      rw [names_places, List.mem_map]
      rintro ⟨r, member, named⟩
      simpa [named] using List.find?_eq_none.mp found r member
    rw [absent, names_places]
    rfl
  | some r =>
    obtain ⟨i, place, here⟩ := get?_places 0 found
    rw [place, Nat.zero_add]
    show m.relationships[i]?.map _ = _
    rw [here]
    rfl

theorem relationshipOf_indexed (m : Metadata) (property : String) :
    m.indexed.relationshipOf property = some (m.relationshipOf property) := by
  refine lookup_places.trans ?_
  rw [List.filter_true]
  rfl

theorem relationshipThrough_indexed (m : Metadata) (column : String) :
    m.indexed.relationshipThrough column = some (m.relationshipThrough column) :=
  lookup_places

variable {r : Relationship}

theorem byProperty_written (new : r.property ∉ m.properties) :
    m.indexed.byProperty.insert r.property m.relationships.length =
      (m.written (.relationship r)).indexed.byProperty := by
  rw [Keyed.insert_of_absent (by rwa [names_byProperty])]
  show _ = places (·.property) (fun _ => true) 0 (m.relationships ++ [r])
  rw [places_append, if_pos rfl, Nat.zero_add]
  rfl

theorem byColumn_written (new : m.hasForeignColumn r = true → r.foreignKey ∉ m.foreignColumns) :
    (if m.hasForeignColumn r = true then
        m.indexed.byColumn.insert r.foreignKey m.relationships.length
      else m.indexed.byColumn) = (m.written (.relationship r)).indexed.byColumn := by
  show _ = places (·.foreignKey) m.hasForeignColumn 0 (m.relationships ++ [r])
  rw [places_append, Nat.zero_add]
  split
  · rename_i led
    rw [Keyed.insert_of_absent (by rw [names_byColumn]; exact new led)]
    rfl
  · exact (List.append_nil _).symm

/-- A call on the maps does what the call does on the list. -/
theorem after_indexed (m : Metadata) (x : Extension) :
    m.indexed.after x = match m.extended x with
      | .ok m' => (.ok (), m'.indexed)
      | .error e => (.error e, m.indexed) := by
  cases x with
  | subclass discriminator table =>
    rw [Metadata.extended, Metadata.addSubclass]
    by_cases taken : m.subclasses.has discriminator = true
    · rw [if_pos taken]
      exact if_pos taken
    · rw [if_neg taken]
      exact if_neg taken
  | relationship r =>
    have property : m.indexed.byProperty.has r.property = m.properties.contains r.property := by
      rw [Bool.eq_iff_iff, Keyed.has_iff_mem_names, names_byProperty, List.contains_iff_mem]
    have column : m.indexed.byColumn.has r.foreignKey = m.foreignColumns.contains r.foreignKey := by
      rw [Bool.eq_iff_iff, Keyed.has_iff_mem_names, names_byColumn, List.contains_iff_mem]
    rw [after, Metadata.extended, Metadata.addRelationship, property, column]
    by_cases taken : m.properties.contains r.property = true
    · rw [if_pos taken, if_pos taken]
    rw [if_neg taken, if_neg taken]
    by_cases clash : (m.hasForeignColumn r && m.foreignColumns.contains r.foreignKey) = true
    · rw [if_pos clash]
      exact if_pos clash
    · have first := byProperty_written (m := m) (r := r) (by simpa using taken)
      have second := byColumn_written (m := m) (r := r) (by simpa using clash)
      rw [if_neg clash]
      refine (if_neg clash).trans ?_
      exact congrArg₂ (fun byProperty byColumn =>
        (Except.ok (), Indexed.mk (m.written (.relationship r)) byProperty byColumn)) first second
  | translation table => rfl

theorem run_indexed (m : Metadata) (calls : List Extension) :
    m.indexed.run calls = (m.extendAll calls).indexed := by
  induction calls generalizing m with
  | nil => rfl
  | cons x rest ih =>
    show (m.indexed.after x).2.run rest = ((m.extend x).extendAll rest).indexed
    rw [← ih, after_indexed, Metadata.extend]
    cases m.extended x <;> rfl

end Indexed

/-- After any calls, nothing is stored twice, the look-ups find what is stored, and the next call
fails for its reason and changes nothing, or it writes what it asks for. The look-ups by place
answer each time, with what the look-ups in the list answer. -/
theorem Metadata.lookups_of_calls (m : Metadata) (calls : List Extension) :
    let t := m.blank.extendAll calls
    let s := (Indexed.ofBlank m).run calls
    t.subclasses.names.Nodup ∧ t.properties.Nodup ∧ t.identifier = m.identifier ∧
    (∀ property r, t.relationshipOf property = .ok r ↔
      r ∈ t.relationships ∧ r.property = property) ∧
    (∀ column r, t.relationshipThrough column = .ok r ↔ column ∉ m.identifier ∧
      r ∈ t.relationships ∧ r.kind = .manyToOne ∧ r.foreignKey = column) ∧
    (∀ column, column ∉ m.identifier →
      t.relationships.countP (fun r => r.kind == .manyToOne && r.foreignKey == column) ≤ 1) ∧
    s.metadata = t ∧
    (∀ property, s.relationshipOf property = some (t.relationshipOf property)) ∧
    (∀ column, s.relationshipThrough column = some (t.relationshipThrough column)) ∧
    ∀ x,
      (∃ e, t.Refuses x e ∧ t.extended x = .error e ∧ t.extend x = t ∧ s.after x = (.error e, s)) ∨
      (∀ e, ¬t.Refuses x e) ∧ t.extended x = .ok (t.written x) ∧ t.extend x = t.written x ∧
        (s.after x).1 = .ok () ∧ (s.after x).2.metadata = t.written x := by
  intro t s
  have distinct : t.Distinct := m.distinct_extendAll calls
  have identifier : t.identifier = m.identifier := m.blank.identifier_extendAll calls
  have indexed : s = t.indexed := Indexed.run_indexed m.blank calls
  refine ⟨distinct.discriminators, distinct.properties, identifier, fun _ _ =>
    relationshipOf_eq_ok distinct, fun column r => ?_, fun column outside => ?_, ?_, ?_, ?_, ?_⟩
  · rw [← identifier]
    exact relationshipThrough_eq_ok distinct
  · rw [← identifier] at outside
    exact countP_through distinct outside
  · rw [indexed]
    rfl
  · rw [indexed]
    exact Indexed.relationshipOf_indexed t
  · rw [indexed]
    exact Indexed.relationshipThrough_indexed t
  · intro x
    rw [indexed, Indexed.after_indexed, extend]
    rcases t.extended_cases x with ⟨e, refused, failed⟩ | ⟨accepted, ok⟩
    · rw [failed]
      exact .inl ⟨e, refused, rfl, rfl, rfl⟩
    · rw [ok]
      exact .inr ⟨accepted, rfl, rfl, rfl, rfl⟩

def profileTable : Metadata :=
  .ofColumns "profile" [("id", .integer), ("author_fk", .integer)] ["id"]

/-- The fourth call repeats a column and the last one a discriminator. Two links share the
identifier, by which they are not looked up. -/
def profileCalls : List Extension :=
  [.relationship (.toOne "User" "user" "id" "id"),
    .relationship (.toOne "Account" "account" "id" "id"),
    .relationship (.toOne "Person" "author" "author_fk" "id"),
    .relationship (.toOne "Person" "writer" "author_fk" "id"),
    .subclass "public" "public_profile", .subclass "public" "open_profile"]

theorem lookups_of_calls_profile :
    let t := profileTable.blank.extendAll profileCalls
    "author_fk" ∉ profileTable.identifier ∧ t.properties = ["user", "account", "author"] ∧
      t.subclasses = [("public", "public_profile")] ∧
      t.relationshipThrough "author_fk" = .ok (.toOne "Person" "author" "author_fk" "id") ∧
      t.relationships.countP (fun r => r.kind == .manyToOne && r.foreignKey == "author_fk") ≤ 1 ∧
      ∀ r, t.relationshipThrough "id" ≠ .ok r := by
  intro t
  obtain ⟨-, -, -, -, through, once, -⟩ := Metadata.lookups_of_calls profileTable profileCalls
  refine ⟨by decide, by decide, by decide, ?_, once "author_fk" (by decide), ?_⟩
  · exact (through _ _).mpr ⟨by decide, by decide, rfl, rfl⟩
  · intro r found
    exact absurd ((through _ _).mp found).1 (by decide)

end Relmap
