import Relmap.Proofs.Sql.Binding

/-!
# The meaning of conditions

What conditions say of the rows of a database, in the three-valued logic of SQL. How a database
compares values is left open, except that nothing is known of null and that inequality negates
equality. Aggregates, order and paging, which conditions do not use, are left out.
-/

namespace Relmap

/-- The value of a column, which is null where the row has none. -/
def Row.read (row : Row) (column : String) : Value := (row.get? column).getD .null

namespace Sql

/-- A truth value of SQL. -/
inductive Truth where
  | no | unknown | yes
deriving DecidableEq, Repr

namespace Truth

def ofBool : Bool → Truth
  | true => .yes
  | false => .no

protected def not : Truth → Truth
  | .no => .yes
  | .unknown => .unknown
  | .yes => .no

protected def and : Truth → Truth → Truth
  | .no, _ | _, .no => .no
  | .yes, .yes => .yes
  | _, _ => .unknown

protected def or : Truth → Truth → Truth
  | .yes, _ | _, .yes => .yes
  | .no, .no => .no
  | _, _ => .unknown

/-- All of the truths. -/
def all (truths : List Truth) : Truth := truths.foldr .and .yes

/-- Some of the truths. -/
def any (truths : List Truth) : Truth := truths.foldr .or .no

/-- The truth or its negation. -/
def negatedIf (negated : Bool) (t : Truth) : Truth := if negated then t.not else t

@[simp] theorem and_yes (t : Truth) : t.and .yes = t := by cases t <;> rfl

@[simp] theorem or_no (t : Truth) : t.or .no = t := by cases t <;> rfl

theorem and_eq_yes {t u : Truth} : t.and u = .yes ↔ t = .yes ∧ u = .yes := by
  cases t <;> cases u <;> decide

theorem or_eq_yes {t u : Truth} : t.or u = .yes ↔ t = .yes ∨ u = .yes := by
  cases t <;> cases u <;> decide

theorem all_eq_yes {truths : List Truth} : all truths = .yes ↔ ∀ t ∈ truths, t = .yes := by
  induction truths with
  | nil => simp [all]
  | cons t rest ih =>
    simp only [all, List.foldr_cons, and_eq_yes, List.forall_mem_cons] at ih ⊢
    rw [ih]

theorem any_eq_yes {truths : List Truth} : any truths = .yes ↔ .yes ∈ truths := by
  induction truths with
  | nil => simp [any]
  | cons t rest ih =>
    simp only [any, List.foldr_cons, or_eq_yes, List.mem_cons] at ih ⊢
    rw [ih, eq_comm]

/-- Where every truth is yes, only the absence of truths makes the whole a no. -/
theorem any_of_forall_yes {truths : List Truth} (yes : ∀ t ∈ truths, t = .yes) :
    any truths = ofBool (!truths.isEmpty) := by
  cases truths with
  | nil => rfl
  | cons t rest => exact any_eq_yes.mpr (by simp [yes t])

end Truth

/-- How a database compares values. Nothing is known of null. -/
structure Comparison where
  relation : Relation → Value → Value → Truth
  /-- A value agrees with a pattern. -/
  like : Value → Value → Truth
  relation_null_left : ∀ r v, relation r .null v = .unknown
  relation_null_right : ∀ r v, relation r v .null = .unknown
  like_null_left : ∀ v, like .null v = .unknown
  ne_eq_not : ∀ v w, relation .ne v w = (relation .eq v w).not

/-- The relation holds between two integers. -/
def Relation.holds : Relation → Int → Int → Bool
  | .eq, m, n => m == n
  | .ne, m, n => m != n
  | .gt, m, n => n < m
  | .ge, m, n => n ≤ m
  | .lt, m, n => m < n
  | .le, m, n => m ≤ n

/-- Compares integers, and knows nothing of other values. -/
def Comparison.ofIntegers : Comparison where
  relation
    | r, .int m, .int n => .ofBool (r.holds m.toInt n.toInt)
    | _, _, _ => .unknown
  like _ _ := .unknown
  relation_null_left _ _ := rfl
  relation_null_right _ v := by cases v <;> rfl
  like_null_left _ := rfl
  ne_eq_not v w := by
    cases v <;> cases w <;> try rfl
    rename_i m n
    cases same : m.toInt == n.toInt <;> simp only [Relation.holds, bne, same] <;> rfl

theorem Comparison.ofIntegers_comm (v w : Value) :
    ofIntegers.relation .eq v w = ofIntegers.relation .eq w v := by
  cases v <;> cases w <;> try rfl
  simp only [ofIntegers, Relation.holds, Bool.beq_comm]

/-- What expressions are evaluated against: the rows of the tables, the comparison of values and
the parameters. -/
structure Setting where
  rows : String → List Row
  comparison : Comparison
  params : List Parameter

/-- The rows that names stand for. A name of an inner query hides the same name of an outer one. -/
abbrev Bindings := Keyed Row

namespace Bindings

/-- The row that a name stands for. -/
def row (names : Bindings) (table : String) : Row := (names.get? table).getD []

@[simp] theorem row_same (names : Bindings) (table : String) (row : Row) :
    Bindings.row ((table, row) :: names) table = row := by
  simp [Bindings.row, Keyed.get?]

theorem row_other (names : Bindings) {table other : String} (row : Row) (apart : other ≠ table) :
    Bindings.row ((other, row) :: names) table = names.row table := by
  simp [Bindings.row, Keyed.get?, apart]

theorem row_of_get? {names : Bindings} {table : String} {row : Row}
    (bound : names.get? table = some row) : names.row table = row := by
  simp [Bindings.row, bound]

end Bindings

namespace Setting

variable (db : Setting)

/-- The value of an operand, which is a column or the place of a single value. -/
def value (names : Bindings) : Expr → Value
  | .column (some table) name => (names.row table).read name
  | .column none name => (names.findSome? fun entry => entry.2.get? name).getD .null
  | .placeholder name =>
    match valuesOf db.params name with
    | [bound] => bound.value
    | _ => .null
  | _ => .null

/-- The values of a list. A list without items is written as null. -/
def items (names : Bindings) : Expr → List Value
  | .placeholder name =>
    match valuesOf db.params name with
    | [] => [.null]
    | values => values.map (·.value)
  | e => [db.value names e]

/-- The value equals some of the given ones. -/
def among (subject : Value) (values : List Value) : Truth :=
  .any (values.map (db.comparison.relation .eq subject))

/-- The rows of a query's source, for the names that it may refer to. -/
def sourceRows (names : Bindings) : Option TableRef → List Bindings
  | some source => (db.rows source.table).map fun row => (source.aliasName, row) :: names
  | none => [names]

/-- What a join makes of one row: the row with each row of the target that meets the condition, and
with nulls in a left join if none does. -/
def extend (kind : JoinKind) (target : TableRef) (meets : Bindings → Truth) (names : Bindings) :
    List Bindings :=
  let extended := (db.rows target.table).map fun row => (target.aliasName, row) :: names
  let met := extended.filter fun names => meets names == .yes
  if met.isEmpty && kind == .left then [(target.aliasName, []) :: names] else met

/-- The value of the first output column. -/
def firstValue (columns : List SelectItem) (names : Bindings) : Value :=
  (columns.head?.map fun column => db.value names column.expr).getD .null

mutual

/-- The truth of a condition. -/
def truth : Expr → Bindings → Truth
  | .compound .and operands, names => .all (truths operands names)
  | .compound .or operands, names => .any (truths operands names)
  | .not operand, names => (truth operand names).not
  | .compare left relation right, names =>
    db.comparison.relation relation (db.value names left) (db.value names right)
  | .inList negated subject list, names =>
    .negatedIf negated (db.among (db.value names subject) (db.items names list))
  | .inQuery subject query, names => db.among (db.value names subject) (output query names)
  | .isNull negated subject, names => .ofBool (negated != (db.value names subject).isNull)
  | .like subject pattern, names =>
    db.comparison.like (db.value names subject) (db.value names pattern)
  -- Operands and aggregates are no conditions.
  | _, _ => .unknown

def truths : List Expr → Bindings → List Truth
  | [], _ => []
  | e :: rest, names => truth e names :: truths rest names

/-- The values of a query with one output column. -/
def output : Select → Bindings → List Value
  | ⟨columns, source, joins, filter, _, _, _⟩, names =>
    (((db.sourceRows names source).flatMap (joined joins)).filter fun names =>
      Truth.all (truths filter names) == .yes).map (db.firstValue columns)

/-- What joins make of one row. -/
def joined : List Join → Bindings → List Bindings
  | [], names => [names]
  | ⟨kind, target, on⟩ :: rest, names =>
    (db.extend kind target (truth on) names).flatMap (joined rest)

end

/-- The rows that a query selects. -/
def selected (q : Select) (names : Bindings) : List Bindings :=
  ((db.sourceRows names q.source).flatMap (db.joined q.joins)).filter fun names =>
    Truth.all (db.truths q.filter names) == .yes

variable {db}

@[simp] theorem value_of (names : Bindings) (table column : String) :
    db.value names (.of table column) = (names.row table).read column := rfl

theorem output_eq (q : Select) (names : Bindings) :
    db.output q names = (db.selected q names).map (db.firstValue q.columns) := by
  cases q
  rfl

theorem mem_truths {operands : List Expr} {names : Bindings} {t : Truth} :
    t ∈ db.truths operands names ↔ ∃ e ∈ operands, db.truth e names = t := by
  induction operands with
  | nil => simp [truths]
  | cons e rest ih => simp [truths, ih, eq_comm]

/-- A query selects what its joins make of its source and all of its conditions hold for. -/
theorem mem_selected {q : Select} {names row : Bindings} :
    row ∈ db.selected q names ↔
      (∃ start ∈ db.sourceRows names q.source, row ∈ db.joined q.joins start) ∧
        ∀ e ∈ q.filter, db.truth e row = .yes := by
  simp [selected, Truth.all_eq_yes, mem_truths]

/-- A join takes a row of its target that meets its condition, and a row of nulls in a left join if
none does. -/
theorem mem_extend {kind : JoinKind} {target : TableRef} {meets : Bindings → Truth}
    {names extended : Bindings} :
    extended ∈ db.extend kind target meets names ↔
      (∃ row ∈ db.rows target.table, meets ((target.aliasName, row) :: names) = .yes ∧
        extended = (target.aliasName, row) :: names) ∨
      kind = .left ∧ extended = (target.aliasName, []) :: names ∧
        ∀ row ∈ db.rows target.table, meets ((target.aliasName, row) :: names) ≠ .yes := by
  unfold extend
  extract_lets candidates met
  have isMet : ∀ found, found ∈ met ↔ ∃ row ∈ db.rows target.table,
      meets ((target.aliasName, row) :: names) = .yes ∧
        found = (target.aliasName, row) :: names := by
    intro found
    simp only [met, candidates, List.mem_filter, List.mem_map, beq_iff_eq]
    constructor
    · rintro ⟨⟨row, member, rfl⟩, holds⟩
      exact ⟨row, member, holds, rfl⟩
    · rintro ⟨row, member, holds, rfl⟩
      exact ⟨⟨row, member, rfl⟩, holds⟩
  rw [← isMet]
  by_cases none : met = []
  · have unmet : ∀ row ∈ db.rows target.table,
        meets ((target.aliasName, row) :: names) ≠ .yes := by
      intro row member holds
      have : (target.aliasName, row) :: names ∈ met := (isMet _).mpr ⟨row, member, holds, rfl⟩
      simp [none] at this
    cases kind with
    | inner => simp [none]
    | left => simpa [none] using fun _ => unmet
  · have some : ¬∀ row ∈ db.rows target.table,
        meets ((target.aliasName, row) :: names) ≠ .yes := by
      intro unmet
      obtain ⟨found, member⟩ := List.exists_mem_of_ne_nil met none
      obtain ⟨row, inTable, holds, _⟩ := (isMet found).mp member
      exact unmet row inTable holds
    have full : met.isEmpty = false := List.isEmpty_eq_false_iff.mpr none
    simp [full, some]

theorem mem_joined_cons {join : Join} {rest : List Join} {names row : Bindings} :
    row ∈ db.joined (join :: rest) names ↔
      ∃ extended ∈ db.extend join.kind join.target (db.truth join.on) names,
        row ∈ db.joined rest extended := by
  obtain ⟨kind, target, on⟩ := join
  simp only [joined, List.mem_flatMap]

/-- Joins leave alone what they do not name. -/
theorem get?_joined {joins : List Join} {names row : Bindings} (found : row ∈ db.joined joins names)
    {name : String} (unnamed : name ∉ joins.map (·.target.aliasName)) :
    row.get? name = names.get? name := by
  induction joins generalizing names with
  | nil =>
    obtain rfl : row = names := by simpa [joined] using found
    rfl
  | cons join rest ih =>
    simp only [List.map_cons, List.mem_cons, not_or] at unnamed
    obtain ⟨extended, isExtended, found⟩ := mem_joined_cons.mp found
    rw [ih found unnamed.2]
    rcases mem_extend.mp isExtended with ⟨_, _, _, rfl⟩ | ⟨_, rfl, _⟩ <;>
      simp [Keyed.get?, Ne.symm unnamed.1]

theorem among_eq_yes {subject : Value} {values : List Value} :
    db.among subject values = .yes ↔
      ∃ value ∈ values, db.comparison.relation .eq subject value = .yes := by
  simp [among, Truth.any_eq_yes]

/-- Where the subject equals every value, it is not unknown whether it is among them. -/
theorem among_of_forall {subject : Value} {values : List Value}
    (equal : ∀ value ∈ values, db.comparison.relation .eq subject value = .yes) :
    db.among subject values = .ofBool (!values.isEmpty) := by
  have yes : ∀ t ∈ values.map (db.comparison.relation .eq subject), t = .yes := by
    simpa using equal
  simpa [among] using Truth.any_of_forall_yes yes

end Setting
end Sql
end Relmap
