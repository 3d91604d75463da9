import Relmap.Proofs.Calendar.RoundTrip
import Relmap.Proofs.Outcome
import Relmap.Proofs.Uuid
import Relmap.Schema.Conversion

/-!
# Values stored and read again

An application value is its own application form, and it is what is read again after it has been
stored, save that columns of dates and times hold no fractions of a second. Main statement,
`toApplication_toStored`. Nulls and lists stay where they are on the way.
-/

namespace Relmap

/-- The nulls and lists of a value, without what its leaves hold. -/
inductive Skeleton where
  | null
  | leaf
  | list (items : List Skeleton)

namespace Value

mutual

def skeleton : Value → Skeleton
  | .null => .null
  | .list items => .list (skeletons items)
  | _ => .leaf

def skeletons : List Value → List Skeleton
  | [] => []
  | item :: rest => item.skeleton :: skeletons rest

end

mutual

/-- What is neither null nor a list in a value, from left to right. -/
def leaves : Value → List Value
  | .null => []
  | .list items => leavesOfItems items
  | value => [value]

def leavesOfItems : List Value → List Value
  | [] => []
  | item :: rest => item.leaves ++ leavesOfItems rest

end

mutual

/-- Applies a function to the leaves. -/
def mapLeaves (f : Value → Value) : Value → Value
  | .null => .null
  | .list items => .list (mapItems f items)
  | value => f value

def mapItems (f : Value → Value) : List Value → List Value
  | [] => []
  | item :: rest => item.mapLeaves f :: mapItems f rest

end

/-- A date with a time, or a time, without its fraction of a second. -/
def withoutFraction : Value → Value
  | .dateTime t => .dateTime t.whole
  | .time t => .time t.whole
  | value => value

/-- The kinds of leaves that a database stores. -/
def Kind.isStored : Kind → Bool
  | .bool | .int | .real | .text | .bytes => true
  | _ => false

/-- Neither null nor a list. -/
def isLeaf (v : Value) : Bool := !v.isNull && !v.isList

/-! ## Conversions of leaves -/

mutual

/-- The second value is the first one with each leaf converted. -/
inductive Converts (f : Value → Except Error Value) : Value → Value → Prop
  | null : Converts f .null .null
  | leaf {v w : Value} : v.isLeaf = true → f v = .ok w → Converts f v w
  | list {items results : List Value} :
      ConvertsEach f items results → Converts f (.list items) (.list results)

inductive ConvertsEach (f : Value → Except Error Value) : List Value → List Value → Prop
  | nil : ConvertsEach f [] []
  | cons {v w : Value} {items results : List Value} :
      Converts f v w → ConvertsEach f items results → ConvertsEach f (v :: items) (w :: results)

end

theorem convertLeaves_of_isLeaf {f : Value → Except Error Value} {v : Value}
    (leaf : v.isLeaf = true) : v.convertLeaves f = f v := by
  cases v <;> first | rfl | cases leaf

mutual

theorem converts_of_ok {f : Value → Except Error Value} : ∀ {v w : Value},
    v.convertLeaves f = .ok w → Converts f v w
  | .null, _, ok => by
    cases ok
    exact .null
  | .list items, _, ok => by
    rw [convertLeaves] at ok
    split at ok <;> cases ok
    rename_i converted
    exact .list (convertsEach_of_ok converted)
  | .bool _, _, ok | .int _, _, ok | .real _, _, ok | .text _, _, ok | .bytes _, _, ok
  | .uuid _, _, ok | .json _, _, ok | .date _, _, ok | .time _, _, ok | .dateTime _, _, ok
  | .timestamp _, _, ok => .leaf rfl ok

theorem convertsEach_of_ok {f : Value → Except Error Value} : ∀ {items results : List Value},
    convertItems f items = .ok results → ConvertsEach f items results
  | [], _, ok => by
    cases ok
    exact .nil
  | item :: rest, _, ok => by
    rw [convertItems] at ok
    split at ok
    · cases ok
    · rename_i converted
      split at ok <;> cases ok
      rename_i others
      exact .cons (converts_of_ok converted) (convertsEach_of_ok others)

end

mutual

theorem convertLeaves_eq_ok {f : Value → Except Error Value} : ∀ {v w : Value},
    Converts f v w → v.convertLeaves f = .ok w
  | _, _, .null => rfl
  | _, _, .leaf isLeaf ok => (convertLeaves_of_isLeaf isLeaf).trans ok
  | _, _, .list each => by rw [convertLeaves, convertItems_eq_ok each]

theorem convertItems_eq_ok {f : Value → Except Error Value} : ∀ {items results : List Value},
    ConvertsEach f items results → convertItems f items = .ok results
  | _, _, .nil => rfl
  | _, _, .cons first later => by
    rw [convertItems, convertLeaves_eq_ok first, convertItems_eq_ok later]

end

theorem skeleton_of_isLeaf {v : Value} (leaf : v.isLeaf = true) : v.skeleton = .leaf := by
  cases v <;> first | rfl | cases leaf

theorem leaves_of_isLeaf {v : Value} (leaf : v.isLeaf = true) : v.leaves = [v] := by
  cases v <;> first | rfl | cases leaf

theorem mapLeaves_of_isLeaf (f : Value → Value) {v : Value} (leaf : v.isLeaf = true) :
    v.mapLeaves f = f v := by
  cases v <;> first | rfl | cases leaf

section

variable {f g h : Value → Except Error Value}

mutual

/-- A conversion that yields what another one leaves as it is. -/
theorem Converts.fixed (each : ∀ v w, f v = .ok w → w.isLeaf = true ∧ g w = .ok w) :
    ∀ {v w : Value}, Converts f v w → Converts g w w
  | _, _, .null => .null
  | v, w, .leaf _ ok => .leaf (each v w ok).1 (each v w ok).2
  | _, _, .list items => .list (items.fixed each)

theorem ConvertsEach.fixed (each : ∀ v w, f v = .ok w → w.isLeaf = true ∧ g w = .ok w) :
    ∀ {items results : List Value}, ConvertsEach f items results → ConvertsEach g results results
  | _, _, .nil => .nil
  | _, _, .cons first later => .cons (first.fixed each) (later.fixed each)

end

mutual

/-- A conversion of leaves to leaves keeps nulls and lists where they are. -/
theorem Converts.skeleton_eq (each : ∀ v w, f v = .ok w → w.isLeaf = true) :
    ∀ {v w : Value}, Converts f v w → w.skeleton = v.skeleton
  | _, _, .null => rfl
  | v, w, .leaf isLeaf ok => by
    rw [skeleton_of_isLeaf isLeaf, skeleton_of_isLeaf (each v w ok)]
  | _, _, .list items => by rw [skeleton, skeleton, items.skeletons_eq each]

theorem ConvertsEach.skeletons_eq (each : ∀ v w, f v = .ok w → w.isLeaf = true) :
    ∀ {items results : List Value}, ConvertsEach f items results →
      skeletons results = skeletons items
  | _, _, .nil => rfl
  | _, _, .cons first later => by
    rw [skeletons, skeletons, first.skeleton_eq each, later.skeletons_eq each]

end

mutual

/-- What holds of converted leaves holds of all leaves of the result. -/
theorem Converts.forall_leaves {holds : Value → Prop}
    (each : ∀ v w, f v = .ok w → w.isLeaf = true ∧ holds w) :
    ∀ {v w : Value}, Converts f v w → ∀ leaf ∈ w.leaves, holds leaf
  | _, _, .null => nofun
  | v, w, .leaf _ ok => by
    rw [leaves_of_isLeaf (each v w ok).1]
    exact List.forall_mem_singleton.mpr (each v w ok).2
  | _, _, .list items => by
    rw [leaves]
    exact items.forall_leaves each

theorem ConvertsEach.forall_leaves {holds : Value → Prop}
    (each : ∀ v w, f v = .ok w → w.isLeaf = true ∧ holds w) :
    ∀ {items results : List Value}, ConvertsEach f items results →
      ∀ leaf ∈ leavesOfItems results, holds leaf
  | _, _, .nil => nofun
  | _, _, .cons first later => by
    rw [leavesOfItems]
    exact List.forall_mem_append.mpr ⟨first.forall_leaves each, later.forall_leaves each⟩

end

mutual

/-- A conversion that is undone leaf by leaf, up to a function of the leaves. -/
theorem Converts.undone {lost : Value → Value} : ∀ {a d : Value}, Converts g a d →
    (∀ leaf ∈ a.leaves, ∀ w, g leaf = .ok w → w.isLeaf = true ∧ h w = .ok (lost leaf)) →
      Converts h d (a.mapLeaves lost)
  | _, _, .null, _ => .null
  | a, d, .leaf isLeaf ok, each => by
    rw [leaves_of_isLeaf isLeaf] at each
    obtain ⟨stored, undone⟩ := each a (List.mem_singleton_self a) d ok
    rw [mapLeaves_of_isLeaf lost isLeaf]
    exact .leaf stored undone
  | _, _, .list items, each => .list (items.undone each)

theorem ConvertsEach.undone {lost : Value → Value} : ∀ {items results : List Value},
    ConvertsEach g items results →
      (∀ leaf ∈ leavesOfItems items, ∀ w, g leaf = .ok w →
        w.isLeaf = true ∧ h w = .ok (lost leaf)) →
      ConvertsEach h results (mapItems lost items)
  | _, _, .nil, _ => .nil
  | _, _, .cons first later, each => by
    rw [leavesOfItems, List.forall_mem_append] at each
    exact .cons (first.undone each.1) (later.undone each.2)

end

end

mutual

theorem mapLeaves_self {f : Value → Value} : ∀ {v : Value},
    (∀ leaf ∈ v.leaves, f leaf = leaf) → v.mapLeaves f = v
  | .null, _ => rfl
  | .list items, each => by rw [mapLeaves, mapItems_self each]
  | .bool _, each | .int _, each | .real _, each | .text _, each | .bytes _, each | .uuid _, each
  | .json _, each | .date _, each | .time _, each | .dateTime _, each | .timestamp _, each =>
    each _ (List.mem_singleton_self _)

theorem mapItems_self {f : Value → Value} : ∀ {items : List Value},
    (∀ leaf ∈ leavesOfItems items, f leaf = leaf) → mapItems f items = items
  | [], _ => rfl
  | item :: rest, each => by
    rw [leavesOfItems, List.forall_mem_append] at each
    rw [mapItems, mapLeaves_self each.1, mapItems_self each.2]

end

end Value

/-! ## Leaves of a column type -/

namespace ColumnType

/-- The kind of the application values of a type. -/
def applicationKind : ColumnType → Value.Kind
  | .boolean => .bool
  | .smallInt | .integer | .bigInt => .int
  | .decimal | .string | .text | .ascii => .text
  | .float => .real
  | .guid => .uuid
  | .binary | .blob => .bytes
  | .date => .date
  | .dateTime => .dateTime
  | .dateTimeTz => .timestamp
  | .time => .time
  | .json => .json

theorem refuse_ne_ok {α : Type} {type : ColumnType} {v : Value} {a : α} :
    type.refuse v ≠ .ok a := nofun

theorem kind_applicationLeaf {type : ColumnType} {v w : Value}
    (ok : type.applicationLeaf v = .ok w) : w.kind = type.applicationKind := by
  revert ok
  fun_cases applicationLeaf type v
  all_goals intro ok
  all_goals first
    | cases ok; rfl
    | exact absurd ok refuse_ne_ok
    | obtain ⟨_, -, rfl⟩ := map_eq_ok.mp ok; rfl

/-- A value of the kind is its own application form. -/
theorem applicationLeaf_of_kind {type : ColumnType} {v : Value}
    (kind : v.kind = type.applicationKind) : type.applicationLeaf v = .ok v := by
  cases type <;> cases v <;> cases kind <;> rfl

theorem isLeaf_of_kind {type : ColumnType} {v : Value} (kind : v.kind = type.applicationKind) :
    v.isLeaf = true := by
  cases type <;> cases v <;> cases kind <;> rfl

/-- The kind in which the values of a type are stored. -/
def storedKind : ColumnType → Value.Kind
  | .boolean => .bool
  | .smallInt | .integer | .bigInt => .int
  | .float => .real
  | .binary | .blob => .bytes
  | _ => .text

theorem kind_storedLeaf {type : ColumnType} {v w : Value} (ok : type.storedLeaf v = .ok w) :
    w.kind = type.storedKind := by
  revert ok
  fun_cases storedLeaf type v
  all_goals intro ok
  all_goals first
    | cases ok; rfl
    | exact absurd ok refuse_ne_ok
    | obtain ⟨_, -, rfl⟩ := map_eq_ok.mp ok; rfl

theorem isStored_storedLeaf {type : ColumnType} {v w : Value} (ok : type.storedLeaf v = .ok w) :
    w.kind.isStored = true := by
  rw [kind_storedLeaf ok]
  cases type <;> rfl

/-- What is read again after an application value has been stored. -/
def readBack (type : ColumnType) (a : Value) : Value :=
  match type with
  | .dateTime | .time => a.mapLeaves Value.withoutFraction
  | _ => a

theorem applicationLeaf_storedLeaf {type : ColumnType} {v w : Value}
    (kind : v.kind = type.applicationKind) (ok : type.storedLeaf v = .ok w)
    (document : ∀ j, v = .json j → Json.readCanonical? j.text = some j) :
    type.applicationLeaf w = .ok v.withoutFraction := by
  cases type with
  | boolean | smallInt | integer | bigInt | float | string | text | ascii | binary | blob =>
    cases v <;> cases kind
    cases ok
    rfl
  | decimal =>
    cases v <;> cases kind
    simp only [storedLeaf] at ok
    split at ok
    · cases ok
      rfl
    · exact absurd ok refuse_ne_ok
  | guid =>
    cases v <;> cases kind
    cases ok
    change Value.uuid <$> readAs _ (Uuid.ofText? _) = _
    rw [Uuid.ofText?_text]
    rfl
  | date =>
    cases v <;> cases kind
    cases ok
    change Value.date <$> readAs _ (Date.ofText? _) = _
    rw [Date.ofText?_text]
    rfl
  | dateTime =>
    cases v <;> cases kind
    cases ok
    change Value.dateTime <$> dateTimeOf _ = _
    unfold dateTimeOf
    rw [DateTime.ofColumn?_columnText]
    rfl
  | dateTimeTz =>
    cases v <;> cases kind
    cases ok
    change Value.timestamp <$> readAs _ (Timestamp.ofText? _) = _
    rw [Timestamp.ofText?_text]
    rfl
  | time =>
    cases v <;> cases kind
    cases ok
    change Value.time <$> clockOf _ = _
    unfold clockOf
    rw [Clock.ofColumn?_columnText]
    rfl
  | json =>
    cases v <;> cases kind
    cases ok
    rename_i j
    change Value.json <$> readAs _ (Json.readCanonical? j.text) = _
    rw [document j rfl]
    rfl

theorem applicationLeaf_fixed (type : ColumnType) (v w : Value)
    (ok : type.applicationLeaf v = .ok w) : w.isLeaf = true ∧ type.applicationLeaf w = .ok w :=
  ⟨isLeaf_of_kind (kind_applicationLeaf ok), applicationLeaf_of_kind (kind_applicationLeaf ok)⟩

theorem isLeaf_of_isStored {v : Value} (stored : v.kind.isStored = true) : v.isLeaf = true := by
  cases v <;> first | rfl | cases stored

theorem mapLeaves_withoutFraction {type : ColumnType} {a : Value}
    (kinds : ∀ leaf ∈ a.leaves, leaf.kind = type.applicationKind) :
    a.mapLeaves Value.withoutFraction = type.readBack a := by
  cases type with
  | dateTime | time => rfl
  | _ =>
    refine Value.mapLeaves_self fun leaf member => ?_
    have kind := kinds leaf member
    cases leaf <;> first | rfl | cases kind

/-- An application value is its own application form. What is stored of it has its nulls and lists
where they were and leaves of five kinds, and is read as the value that was stored, without
fractions of a second in columns of dates and times, if its documents are read as they are
written. -/
theorem toApplication_toStored {type : ColumnType} {v a : Value}
    (converted : type.toApplication v = .ok a) :
    type.toApplication a = .ok a ∧
      ∀ d, type.toStored a = .ok d →
        d.skeleton = a.skeleton ∧ (∀ leaf ∈ d.leaves, leaf.kind.isStored = true) ∧
          ((∀ j, .json j ∈ a.leaves → Json.readCanonical? j.text = some j) →
            type.toApplication d = .ok (type.readBack a)) := by
  have reached := Value.converts_of_ok converted
  have kinds := reached.forall_leaves fun v w ok =>
    ⟨(type.applicationLeaf_fixed v w ok).1, kind_applicationLeaf ok⟩
  refine ⟨Value.convertLeaves_eq_ok (reached.fixed type.applicationLeaf_fixed), fun d stored => ?_⟩
  have storing := Value.converts_of_ok stored
  refine ⟨storing.skeleton_eq fun _ _ ok => isLeaf_of_isStored (isStored_storedLeaf ok),
    storing.forall_leaves fun _ _ ok =>
      ⟨isLeaf_of_isStored (isStored_storedLeaf ok), isStored_storedLeaf ok⟩, fun documents => ?_⟩
  rw [← mapLeaves_withoutFraction kinds]
  refine Value.convertLeaves_eq_ok (storing.undone fun leaf member w ok => ?_)
  refine ⟨isLeaf_of_isStored (isStored_storedLeaf ok), ?_⟩
  exact applicationLeaf_storedLeaf (kinds leaf member) ok fun j isJson =>
    documents j (isJson ▸ member)

/-- A document with a space in it, next to null and to an empty list. -/
theorem toApplication_toStored_json :
    ∃ a d, json.toApplication (.list [.text "[ ]", .null, .list []]) = .ok a ∧
      json.toApplication a = .ok a ∧ json.toStored a = .ok d ∧ d.skeleton = a.skeleton ∧
        (∀ leaf ∈ d.leaves, leaf.kind.isStored = true) ∧ json.toApplication d = .ok a := by
  have converted : json.toApplication (.list [.text "[ ]", .null, .list []]) =
      .ok (.list [.json (.arr []), .null, .list []]) := by rfl
  obtain ⟨fixed, back⟩ := toApplication_toStored converted
  obtain ⟨skeleton, kinds, undone⟩ := back (.list [.text "[]", .null, .list []]) rfl
  refine ⟨_, _, converted, fixed, rfl, skeleton, kinds, undone fun j member => ?_⟩
  cases List.mem_singleton.mp member
  rfl

end ColumnType
end Relmap
