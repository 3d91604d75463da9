import Relmap.Proofs.Outcome
import Relmap.Proofs.Sql.Clauses
import Relmap.Proofs.Sql.Legible

/-!
# Predicates read back

What is read from the items of a condition is the condition, but for compound conditions of one
operand, which are replaced by it (`Expr.simplified`). `Expr.ReadsBack` is what is known of each part
of it: one lemma for each kind of expression goes over from the parts to the whole.
-/

namespace Relmap.Sql

/-! ## Conditions of one operand -/

/-- The conditions as one that is to hold, if there are any. -/
def merged : List Expr → List Expr
  | [] => []
  | conditions => [compoundOf .and conditions]

mutual

/-- The expression with each compound condition of one operand replaced by the operand. -/
def Expr.simplified : Expr → Expr
  | .compound connective operands => compoundOf connective (simplifiedAll operands)
  | .not operand => .not operand.simplified
  | .compare left relation right => .compare left.simplified relation right.simplified
  | .column table name => .column table name
  | .placeholder name => .placeholder name
  | .inList negated subject list => .inList negated subject.simplified list.simplified
  | .inQuery subject query => .inQuery subject.simplified query.simplified
  | .isNull negated subject => .isNull negated subject.simplified
  | .like subject pattern => .like subject.simplified pattern.simplified
  | .countRows => .countRows
  | .count distinct argument => .count distinct argument.simplified

def simplifiedAll : List Expr → List Expr
  | [] => []
  | e :: rest => e.simplified :: simplifiedAll rest

/-- The query with its expressions simplified and its filter as one condition. -/
def Select.simplified : Select → Select
  | ⟨columns, source, joins, filter, order, limit, offset⟩ =>
    ⟨simplifiedColumns columns, source, simplifiedJoins joins, merged (simplifiedAll filter),
      simplifiedOrder order, limit, offset⟩

def simplifiedColumns : List SelectItem → List SelectItem
  | [] => []
  | ⟨e, aliasName⟩ :: rest => ⟨e.simplified, aliasName⟩ :: simplifiedColumns rest

def simplifiedJoins : List Join → List Join
  | [] => []
  | ⟨kind, target, on⟩ :: rest => ⟨kind, target, on.simplified⟩ :: simplifiedJoins rest

def simplifiedOrder : List OrderTerm → List OrderTerm
  | [] => []
  | ⟨e, direction⟩ :: rest => ⟨e.simplified, direction⟩ :: simplifiedOrder rest

end

/-! ## Connectives -/

/-- What can stand in an expression between parentheses is read as one. -/
theorem Content.read_inner {items : List Item} (inner : Inner items) {e : Expr}
    (read : disjunction? items = some e) : Content.read items = .expr e := by
  unfold Content.read
  split
  · cases inner _ List.mem_cons_self
  · cases inner _ List.mem_cons_self
  · cases inner _ List.mem_cons_self
  · rw [read]
    rfl

/-- The parts between which an item stands are found again. -/
theorem splitOnP_between {separates : Item → Bool} {separator : Item}
    (isSeparator : separates separator = true) {parts : List (List Item)} (nonempty : parts ≠ [])
    (each : ∀ part ∈ parts, ∀ item ∈ part, separates item = false) :
    (between separator parts).splitOnP separates = parts := by
  induction parts with
  | nil => exact absurd rfl nonempty
  | cons first rest ih =>
    obtain ⟨here, later⟩ := List.forall_mem_cons.mp each
    cases rest with
    | nil => exact List.splitOnP_eq_singleton here
    | cons second rest =>
      rw [between, List.splitOnP_append_cons_of_forall_mem here separator isSeparator,
        ih (List.cons_ne_nil second rest) later]
      exact List.cons_ne_nil second rest

theorem joinedBy_between {connective : Connective} {part? : List Item → Option Expr}
    {parts : List (List Item)} (nonempty : parts ≠ [])
    (unjoined : ∀ part ∈ parts, ∀ item ∈ part, item.isKeyword connective.word = false)
    {es : List Expr} (each : List.Forall₂ (fun part e => part? part = some e) parts es) :
    joinedBy connective part? (between (keyword connective.word) parts) =
      some (compoundOf connective es) := by
  rw [joinedBy, splitOnP_between (beq_self_eq_true connective.word) nonempty unjoined,
    mapM_some each]
  rfl

theorem joinedBy_single {connective : Connective} {part? : List Item → Option Expr}
    {items : List Item} (unjoined : ∀ item ∈ items, item.isKeyword connective.word = false) :
    joinedBy connective part? items = part? items := by
  rw [joinedBy, List.splitOnP_eq_singleton unjoined]
  cases read : part? items <;> simp [read, compoundOf]

/-- No connective stands outside of all parentheses. -/
def Unjoined (items : List Item) : Prop :=
  ∀ connective : Connective, ∀ item ∈ items, item.isKeyword connective.word = false

theorem Unjoined.append {items others : List Item} (first : Unjoined items)
    (second : Unjoined others) : Unjoined (items ++ others) :=
  fun connective => List.forall_mem_append.mpr ⟨first connective, second connective⟩

theorem Unjoined.conjunction? {items : List Item} (unjoined : Unjoined items) :
    conjunction? items = negation? items := joinedBy_single (unjoined .and)

theorem Unjoined.disjunction? {items : List Item} (unjoined : Unjoined items) :
    disjunction? items = negation? items :=
  (joinedBy_single (unjoined .or)).trans unjoined.conjunction?

theorem unjoined_enclosed (items : List Item) : Unjoined [enclosed items] :=
  fun _ => List.forall_mem_singleton.mpr rfl

theorem negation?_enclosed {items : List Item} {e : Expr} (inner : Inner items)
    (read : disjunction? items = some e) : negation? [enclosed items] = some e := by
  rw [enclosed, Content.read_inner inner read]
  rfl

theorem joinedBy_enclosed {connective : Connective} {part? : List Item → Option Expr}
    {items : List (List Item)} {es : List Expr} (nonempty : items ≠ [])
    (each : List.Forall₂ (fun part e => part? [enclosed part] = some e) items es) :
    joinedBy connective part?
        (between (keyword connective.word) (items.map fun part => [enclosed part])) =
      some (compoundOf connective es) := by
  refine joinedBy_between (List.map_eq_nil_iff.not.mpr nonempty) (fun part member => ?_)
    (List.forall₂_map_left_iff.mpr each)
  obtain ⟨operand, -, rfl⟩ := List.mem_map.mp member
  exact unjoined_enclosed operand connective

/-- Parenthesised operands with a connective between them are read as the compound condition. -/
theorem disjunction?_operandItems (connective : Connective) {items : List (List Item)}
    {es : List Expr} (nonempty : items ≠ [])
    (each : List.Forall₂ (fun part e => Inner part ∧ disjunction? part = some e) items es) :
    disjunction? (operandItems connective items) = some (compoundOf connective es) := by
  have grouped : List.Forall₂ (fun part e => negation? [enclosed part] = some e) items es :=
    each.imp fun _ _ read => negation?_enclosed read.1 read.2
  unfold operandItems
  split
  · exact absurd rfl nonempty
  · -- A single operand is written without parentheses.
    cases each with
    | cons first later =>
      cases later
      exact first.2
  · cases connective with
    | and =>
      -- There is no `OR` among the items, so the whole is one conjunction.
      refine (joinedBy_single ?_).trans (joinedBy_enclosed nonempty grouped)
      refine forall_mem_between (by rfl) fun part member => ?_
      obtain ⟨operand, -, rfl⟩ := List.mem_map.mp member
      exact unjoined_enclosed operand .or
    | or =>
      refine joinedBy_enclosed nonempty (grouped.imp fun part e read => ?_)
      rw [(unjoined_enclosed part).conjunction?, read]

/-! ## Predicates -/

theorem unjoined_of_all {items : List Item}
    (all : items.all (fun item => !item.isKeyword .and && !item.isKeyword .or) = true) :
    Unjoined items := by
  intro connective item member
  have other := List.all_eq_true.mp all item member
  rw [Bool.and_eq_true, Bool.not_eq_true', Bool.not_eq_true'] at other
  cases connective with
  | and => exact other.1
  | or => exact other.2

theorem unjoined_operand : ∀ (e : Expr), e.isOperand = true → Unjoined e.items
  | .column (some _) _, _ => unjoined_of_all rfl
  | .column none _, _ => unjoined_of_all rfl
  | .placeholder _, _ => unjoined_of_all rfl
  | .countRows, _ => unjoined_of_all rfl
  | .count false _, _ => unjoined_of_all rfl
  | .count true _, _ => unjoined_of_all rfl
  | .compound _ [operand], alone => unjoined_operand operand alone

theorem negation?_of_operand {items rest : List Item} {e : Expr}
    (read : operand? items = some (e, rest)) : negation? items = predicate? items := by
  unfold negation?
  split
  · cases read
  · rfl

/-- The items do not continue a name in front of them. -/
def Undotted (rest : List Item) : Prop := rest.head? ≠ some (.token (.mark .dot))

namespace Expr

/-- The items of an expression are read as the expression simplified, and as an operand in front of
others if it is one. -/
structure ReadsBack (e : Expr) : Prop where
  whole : disjunction? e.items = some e.simplified
  operand : e.isOperand = true → ∀ rest, Undotted rest →
    operand? (e.items ++ rest) = some (e.simplified, rest)

namespace ReadsBack

variable {e subject : Expr}

theorem wholeOperand (reads : e.ReadsBack) (operand : e.isOperand = true) :
    wholeOperand? e.items = some e.simplified := by
  have read := reads.operand operand [] nofun
  rw [List.append_nil] at read
  rw [wholeOperand?, read]

/-- An operand is read on its own if it is read in front of others. -/
theorem of_operand (operand : e.isOperand = true)
    (read : ∀ rest, Undotted rest → operand? (e.items ++ rest) = some (e.simplified, rest)) :
    e.ReadsBack := by
  have alone := read [] nofun
  rw [List.append_nil] at alone
  refine ⟨?_, fun _ => read⟩
  rw [(unjoined_operand _ operand).disjunction?, negation?_of_operand alone, predicate?, alone]

/-- A predicate is an operand with a test of it. -/
theorem of_test {tail : List Item} (reads : subject.ReadsBack) (operand : subject.isOperand = true)
    (other : e.isOperand = false) (items : e.items = subject.items ++ tail)
    (undotted : Undotted tail) (unjoined : Unjoined tail)
    (test : ∀ items, operand? items = some (subject.simplified, tail) →
      predicate? items = some e.simplified) : e.ReadsBack := by
  have read := reads.operand operand tail undotted
  refine ⟨?_, fun isOperand => ?_⟩
  · have free := (unjoined_operand _ operand).append unjoined
    rw [items, free.disjunction?, negation?_of_operand read]
    exact test _ read
  · rw [other] at isOperand
    cases isOperand

theorem each {es : List Expr} (reads : ∀ e ∈ es, e.ReadsBack) :
    List.Forall₂ (fun items e => Inner items ∧ Sql.disjunction? items = some e) (itemsEach es)
      (simplifiedAll es) := by
  induction es with
  | nil => exact .nil
  | cons e rest ih =>
    obtain ⟨here, later⟩ := List.forall_mem_cons.mp reads
    exact .cons ⟨e.inner_items, here.whole⟩ (ih later)

theorem compound (connective : Connective) {operands : List Expr} (nonempty : operands ≠ [])
    (reads : ∀ e ∈ operands, e.ReadsBack) : (Expr.compound connective operands).ReadsBack := by
  refine ⟨disjunction?_operandItems connective ?_ (each reads), fun alone => ?_⟩
  · cases operands with
    | nil => exact absurd rfl nonempty
    | cons first rest => exact List.cons_ne_nil _ _
  · -- What stands for a value has a single operand, which does.
    match operands with
    | [operand] => exact (reads operand (List.mem_singleton_self operand)).operand alone

theorem not (reads : e.ReadsBack) : (Expr.not e).ReadsBack := by
  have unjoined : Unjoined (Expr.not e).items := unjoined_of_all rfl
  refine ⟨?_, nofun⟩
  rw [unjoined.disjunction?, items, negation?.eq_def]
  exact congrArg (Option.map Expr.not) (negation?_enclosed e.inner_items reads.whole)

theorem compare {left right : Expr} (readsLeft : left.ReadsBack) (readsRight : right.ReadsBack)
    (isLeft : left.isOperand = true) (isRight : right.isOperand = true) (relation : Relation) :
    (Expr.compare left relation right).ReadsBack := by
  refine readsLeft.of_test isLeft rfl rfl nofun ?_ fun items read => ?_
  · have sign : Unjoined [.token (.relation relation)] := unjoined_of_all rfl
    exact sign.append (unjoined_operand _ isRight)
  · rw [predicate?, read]
    exact congrArg (Option.map _) (readsRight.wholeOperand isRight)

theorem like {pattern : Expr} (reads : subject.ReadsBack) (readsPattern : pattern.ReadsBack)
    (isSubject : subject.isOperand = true) (isPattern : pattern.isOperand = true) :
    (Expr.like subject pattern).ReadsBack := by
  refine reads.of_test isSubject rfl rfl nofun ?_ fun items read => ?_
  · have sign : Unjoined [keyword .like] := unjoined_of_all rfl
    exact sign.append (unjoined_operand _ isPattern)
  · rw [predicate?, read]
    exact congrArg (Option.map _) (readsPattern.wholeOperand isPattern)

theorem isNull (reads : subject.ReadsBack) (isSubject : subject.isOperand = true)
    (negated : Bool) : (Expr.isNull negated subject).ReadsBack := by
  cases negated with
  | false =>
    refine reads.of_test isSubject rfl rfl nofun (unjoined_of_all rfl) fun items read => ?_
    rw [predicate?, read]
    rfl
  | true =>
    refine reads.of_test isSubject rfl rfl nofun (unjoined_of_all rfl) fun items read => ?_
    rw [predicate?, read]
    rfl

theorem inList {list : Expr} (reads : subject.ReadsBack) (readsList : list.ReadsBack)
    (isSubject : subject.isOperand = true) (negated : Bool) :
    (Expr.inList negated subject list).ReadsBack := by
  have content := Content.read_inner list.inner_items readsList.whole
  cases negated with
  | false =>
    refine reads.of_test isSubject rfl rfl nofun (unjoined_of_all rfl) fun items read => ?_
    rw [predicate?, read, enclosed, content]
    rfl
  | true =>
    refine reads.of_test isSubject rfl rfl nofun (unjoined_of_all rfl) fun items read => ?_
    rw [predicate?, read, enclosed, content]
    rfl

theorem inQuery {query : Select} (reads : subject.ReadsBack) (isSubject : subject.isOperand = true)
    (content : Content.read query.items = .query query.simplified) :
    (Expr.inQuery subject query).ReadsBack := by
  refine reads.of_test isSubject rfl rfl nofun (unjoined_of_all rfl) fun items read => ?_
  rw [predicate?, read, enclosed, content]
  rfl

theorem column (table : Option String) (name : String) : (Expr.column table name).ReadsBack := by
  cases table with
  | some table => exact of_operand rfl fun _ _ => rfl
  | none =>
    refine of_operand rfl fun rest undotted => ?_
    show operand? (.token (.name name) :: rest) = some (.bare name, rest)
    rw [operand?]
    rintro _ _ rfl
    exact undotted rfl

theorem count (reads : e.ReadsBack) (distinct : Bool) : (Expr.count distinct e).ReadsBack := by
  have inside := Content.read_inner e.inner_items reads.whole
  refine of_operand rfl fun rest _ => ?_
  cases distinct with
  | false =>
    rw [items, enclosed, inside]
    rfl
  | true =>
    have content : Content.read (keyword .distinct :: e.items) = .distinct e.simplified := by
      show ((disjunction? e.items).map Content.distinct).getD .unread = _
      rw [reads.whole]
      rfl
    rw [items, enclosed, content]
    rfl

end ReadsBack
end Expr

end Relmap.Sql
