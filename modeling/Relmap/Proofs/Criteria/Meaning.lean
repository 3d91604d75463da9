import Relmap.Proofs.Criteria.Leaf
import Relmap.Proofs.Sql.Meaning

/-!
# The meaning of criteria

What criteria say, in three-valued logic, when it is known what their comparisons say; and what a
comparison says of a stored value. Main statement: no comparison but the test for null itself is met
by null, `Leaf.truth_null`.
-/

namespace Relmap

open Sql

mutual

/-- The truth of a tree of comparisons. A negation has one operand. -/
def Expression.truth (leafTruth : Leaf → Truth) : Expression → Truth
  | .comparison field op value => leafTruth ⟨field, op, value⟩
  | .composite .and operands => .all (truthsOfAll leafTruth operands)
  | .composite .or operands => .any (truthsOfAll leafTruth operands)
  | .composite .not operands => (Truth.all (truthsOfAll leafTruth operands)).not

def truthsOfAll (leafTruth : Leaf → Truth) : List Expression → List Truth
  | [] => []
  | e :: rest => e.truth leafTruth :: truthsOfAll leafTruth rest

end

/-- The truth of an entry. A value is compared by equality. -/
def Criterion.truth (leafTruth : Leaf → Truth) (field : String) (c : Criterion) : Truth :=
  match c with
  | .value v => leafTruth ⟨field, .eq, v⟩
  | .expression e => e.truth leafTruth

/-- The truth of criteria. The entries of a map are all to hold. -/
def Criteria.truth (leafTruth : Leaf → Truth) : Criteria → Truth
  | .expression e => e.truth leafTruth
  | .fields entries => .all (entries.map fun entry => entry.2.truth leafTruth entry.1)

/-- The value equals an item of the list. Nothing is known of a list without items. -/
def Sql.Comparison.member (c : Comparison) (stored : Value) (items : List Value) : Truth :=
  if items.isEmpty then .unknown else .any (items.map (c.relation .eq stored))

theorem Sql.Comparison.member_null (c : Comparison) (items : List Value) :
    c.member .null items = .unknown := by
  cases items with
  | nil => rfl
  | cons first rest =>
    have unknown (others : List Value) :
        Truth.any ((first :: others).map (c.relation .eq .null)) = .unknown := by
      induction others generalizing first with
      | nil => simp [Truth.any, c.relation_null_left, Truth.or]
      | cons second others ih =>
        simp only [Truth.any, List.map_cons, List.foldr_cons, c.relation_null_left] at ih ⊢
        rw [ih second]
        rfl
    simpa [Comparison.member] using unknown rest

/-- The relation that an operator asks for. Lists apart, membership is equality. -/
def Operator.relation? : Operator → Option Relation
  | .eq | .is | .isIn => some .eq
  | .neq | .notIn => some .ne
  | .gt => some .gt
  | .gte => some .ge
  | .lt => some .lt
  | .lte => some .le
  | .contains | .startsWith | .endsWith => none

namespace Leaf

/-- The comparison negates one that asks for equality. -/
def isNegative (l : Leaf) : Bool := l.op == .neq || l.op == .notIn

/-- What a comparison says of a stored value. -/
def truth (c : Comparison) (l : Leaf) (stored : Value) : Truth :=
  match l.value with
  | .list items => .negatedIf l.isNegative (c.member stored items)
  | value =>
    if l.isNullTest then .negatedIf l.isNegative (.ofBool stored.isNull)
    else
      match l.op.relation? with
      | some relation => c.relation relation stored value
      | none => c.like stored l.boundValue

/-- An operator that asks for a relation is compared with the value itself. -/
theorem boundValue_of_relation? {l : Leaf} {relation : Relation}
    (asked : l.op.relation? = some relation) : l.boundValue = l.value := by
  have plain : l.op.isPattern = false := by
    cases op : l.op <;> simp_all [Operator.relation?, Operator.isPattern]
  unfold boundValue
  split <;> simp_all

theorem isList_boundValue (l : Leaf) : l.boundValue.isList = l.value.isList := by
  unfold boundValue
  split
  · rename_i text
    rw [text]
    split <;> rfl
  · rfl

theorem truth_of_list {c : Comparison} {l : Leaf} {items : List Value}
    (list : l.value = .list items) (stored : Value) :
    l.truth c stored = .negatedIf l.isNegative (c.member stored items) := by
  simp only [truth, list]

theorem truth_of_nullTest {c : Comparison} {l : Leaf} (test : l.isNullTest = true)
    (stored : Value) : l.truth c stored = .negatedIf l.isNegative (.ofBool stored.isNull) := by
  have isNull : l.value = .null := by
    unfold isNullTest at test
    split at test <;> simp_all
  simp only [truth, isNull, test, if_true]

/-- What a comparison with a single value says, if it is no test for null. -/
theorem truth_of_single {c : Comparison} {l : Leaf} (test : l.isNullTest = false)
    (single : l.value.isList = false) (stored : Value) :
    l.truth c stored =
      match l.op.relation? with
      | some relation => c.relation relation stored l.value
      | none => c.like stored l.boundValue := by
  unfold truth
  split
  · rename_i list
    simp [list, Value.isList] at single
  · simp only [test, Bool.false_eq_true, if_false]

/-- The comparison is met by null, as a test for null is. -/
def meetsNull (l : Leaf) : Bool := l.isNullTest && !l.isNegative

/-- Null meets no comparison but the test for null. -/
theorem truth_null {c : Comparison} {l : Leaf} (strict : l.meetsNull = false) :
    l.truth c .null ≠ .yes := by
  unfold truth
  split
  · rw [Comparison.member_null]
    cases l.isNegative <;> decide
  · split
    · rename_i test
      have negative : l.isNegative = true := by simpa [meetsNull, test] using strict
      rw [negative]
      decide
    · split
      · rw [c.relation_null_left]
        decide
      · rw [c.like_null_left]
        decide

end Leaf
end Relmap
