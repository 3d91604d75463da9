import Relmap.Compile.Path
import Mathlib.Data.List.DropRight

/-!
# Leaves of criteria

The comparisons that criteria are made of, in the order in which they are compiled, and the names
that they give to their parameters. Main statements: the last segment of a field is the part of its
path after the properties, and names with different numbers differ whatever the fields are.
-/

namespace Relmap

/-- One comparison. -/
structure Leaf where
  field : String
  op : Operator
  value : Value

mutual

/-- The comparisons of a tree from left to right. -/
def Expression.leaves : Expression → List Leaf
  | .comparison field op value => [⟨field, op, value⟩]
  | .composite _ operands => leavesOfAll operands

/-- The comparisons of several trees. -/
def leavesOfAll : List Expression → List Leaf
  | [] => []
  | e :: rest => e.leaves ++ leavesOfAll rest

end

/-- The comparisons of an entry. A value is compared by equality. -/
def Criterion.leaves (field : String) (c : Criterion) : List Leaf :=
  match c with
  | .value v => [⟨field, .eq, v⟩]
  | .expression e => e.leaves

/-- The comparisons of entries. -/
def leavesOfEntries (entries : Keyed Criterion) : List Leaf :=
  entries.flatMap fun entry => entry.2.leaves entry.1

/-- The comparisons of criteria. -/
def Criteria.leaves : Criteria → List Leaf
  | .expression e => e.leaves
  | .fields entries => leavesOfEntries entries

namespace Leaf

/-- The comparison tests against null, which takes no parameter. -/
def isNullTest (l : Leaf) : Bool :=
  match l.op, l.value with
  | .eq, .null | .is, .null | .neq, .null => true
  | _, _ => false

/-- The value that the comparison binds: a pattern for the operators that compare with one. -/
def boundValue (l : Leaf) : Value :=
  match l.value with
  | .text s => if l.op.isPattern then .text (patternOf l.op s) else .text s
  | value => value

/-- The operators that take a list. -/
def takesList (l : Leaf) : Bool :=
  match l.op with
  | .eq | .is | .neq | .isIn | .notIn => true
  | _ => false

end Leaf

/-! ## Segments of a field -/

/-- The text after the last point of a field, which is the whole field if it has none. -/
def lastSegment (field : String) : String :=
  String.ofList (field.toList.rtakeWhile fun c => c != '.')

theorem parts_append_mark (mark : Char) (front back : List Char) :
    Text.parts mark (front ++ mark :: back) = Text.parts mark front ++ Text.parts mark back := by
  induction front with
  | nil =>
    cases found : Text.parts mark back with
    | nil => exact absurd found (Text.parts_ne_nil mark back)
    | cons part others => simp [Text.parts, found]
  | cons c front ih =>
    cases found : Text.parts mark front with
    | nil => exact absurd found (Text.parts_ne_nil mark front)
    | cons part others =>
      simp only [List.cons_append, Text.parts, ih, found]
      split <;> rfl

theorem parts_of_notMem {mark : Char} {s : List Char} (absent : mark ∉ s) :
    Text.parts mark s = [s] := by
  induction s with
  | nil => rfl
  | cons c rest ih =>
    have other : ¬c = mark := fun same => absent (by simp [same])
    have later : mark ∉ rest := fun member => absent (by simp [member])
    simp [Text.parts, ih later, other]

/-- Texts without the mark are the parts of what they make with the mark between them. -/
theorem parts_intercalate {mark : Char} {segments : List (List Char)} (some : segments ≠ [])
    (unmarked : ∀ segment ∈ segments, mark ∉ segment) :
    Text.parts mark ([mark].intercalate segments) = segments := by
  induction segments with
  | nil => exact absurd rfl some
  | cons first rest ih =>
    obtain ⟨here, later⟩ := List.forall_mem_cons.mp unmarked
    cases rest with
    | nil => simpa [List.intercalate] using parts_of_notMem here
    | cons second others =>
      rw [show [mark].intercalate (first :: second :: others) =
        first ++ mark :: [mark].intercalate (second :: others) by simp [List.intercalate],
        parts_append_mark, parts_of_notMem here, ih (List.cons_ne_nil _ _) later]
      rfl

/-- The last part between marks is what follows the last mark. -/
theorem getLast?_parts (mark : Char) (s : List Char) :
    (Text.parts mark s).getLast? = some (s.rtakeWhile fun c => c != mark) := by
  have unmarked : mark ∉ s.rtakeWhile fun c => c != mark := fun member => by
    simpa using List.mem_rtakeWhile_imp member
  have split := List.rdropWhile_append_rtakeWhile (p := fun c => c != mark) (l := s)
  cases front : s.rdropWhile fun c => c != mark with
  | nil =>
    rw [front, List.nil_append] at split
    rw [split] at unmarked ⊢
    simp [parts_of_notMem unmarked]
  | cons first rest =>
    have nonempty : s.rdropWhile (fun c => c != mark) ≠ [] := by simp [front]
    have atMark : (s.rdropWhile fun c => c != mark).getLast nonempty = mark := by
      simpa using List.rdropWhile_last_not (fun c => c != mark) s nonempty
    rw [← List.dropLast_append_getLast nonempty, atMark, List.append_assoc] at split
    conv_lhs => rw [← split]
    simp [parts_append_mark, parts_of_notMem unmarked]

/-- The column at the end of a path is its last segment. -/
theorem pathParts_snd (field : String) : (pathParts field).2 = lastSegment field := by
  simp [pathParts, lastSegment, List.getLastD_eq_getLast?, getLast?_parts]

/-- A path is written with a point between its parts, which have none. -/
theorem pathParts_intercalate {properties : List String} {column : String}
    (plain : ∀ name ∈ properties ++ [column], '.' ∉ name.toList) :
    pathParts (".".intercalate (properties ++ [column])) = (properties, column) := by
  have unmarked : ∀ segment ∈ (properties ++ [column]).map String.toList, '.' ∉ segment := by
    intro segment member
    obtain ⟨name, among, rfl⟩ := List.mem_map.mp member
    exact plain name among
  rw [pathParts, String.toList_intercalate, show ".".toList = ['.'] from rfl,
    parts_intercalate (by simp) unmarked, List.map_map]
  simp [List.getLastD_eq_getLast?, Function.comp_def]

/-- A path has a property before its column. -/
theorem pathParts_fst_ne_nil {field : String} (path : isPath field = true) :
    (pathParts field).1 ≠ [] := by
  have marked : '.' ∈ field.toList := by simpa [isPath] using path
  have whole := Text.intercalate_parts '.' field.toList
  rcases found : Text.parts '.' field.toList with _ | ⟨first, _ | ⟨second, rest⟩⟩
  · exact absurd found (Text.parts_ne_nil '.' field.toList)
  · -- A single part is the whole field, but no part has a point.
    obtain rfl : first = field.toList := by simpa [found, List.intercalate] using whole
    have unmarked := Text.mark_notMem_of_mem_parts (found ▸ List.mem_singleton_self _)
    exact absurd marked unmarked
  · simp [pathParts, found]

/-- A field that is no path is its own last segment. -/
theorem lastSegment_of_not_isPath {field : String} (plain : isPath field = false) :
    lastSegment field = field := by
  have unmarked : ∀ c ∈ field.toList, (c != '.') = true := by
    intro c member
    have absent : '.' ∉ field.toList := by simpa [isPath] using plain
    simpa using fun same : c = '.' => absent (same ▸ member)
  simp [lastSegment, List.rtakeWhile_eq_self_iff.mpr unmarked]

/-! ## Names of parameters -/

theorem digits_of_parameterName (field : String) (n : Nat) :
    (parameterName field n).toList.rtakeWhile (fun c => c != '_') = Nat.toDigits 10 n := by
  have digits : ∀ c ∈ (Nat.toDigits 10 n).reverse, (c != '_') = true := by
    intro c member
    simpa using fun same : c = '_' =>
      Nat.underscore_not_in_toDigits (n := n) (same ▸ List.mem_reverse.mp member)
  simp [parameterName, List.rtakeWhile, List.takeWhile_append_of_pos digits]

/-- The number of a parameter can be read from its name, whatever the field is. -/
theorem parameterName_number {field other : String} {n m : Nat}
    (same : parameterName field n = parameterName other m) : n = m := by
  have digits : Nat.toDigits 10 n = Nat.toDigits 10 m := by
    rw [← digits_of_parameterName field, same, digits_of_parameterName]
  rw [← Nat.ofDigitChars_toDigits (n := n) (b := 10) (by decide) (by decide), digits,
    Nat.ofDigitChars_toDigits (by decide) (by decide)]

end Relmap
