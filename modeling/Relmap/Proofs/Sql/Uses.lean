import Relmap.Database.Driver
import Relmap.Proofs.Outcome
import Relmap.Proofs.Sql.Flavors

/-!
# Uses of placeholders

A placeholder stands as the list of an `IN`, where a list takes a mark for each of its items, or where
there is room for one value. Main statement, `ListsInPlace.marksSingles`: if lists are bound to the former
only, and item by item, every other placeholder is written as one mark in every flavor that counts
positions.
-/

namespace Relmap

/-- A list has an item that is a list. -/
def Value.isNested : Value → Bool
  | .list items => items.any Value.isList
  | _ => false

namespace Sql

/-- A placeholder at its place. -/
structure Use where
  name : String
  /-- It is the list of an `IN`. -/
  inList : Bool
deriving DecidableEq, Repr

mutual

/-- The uses of placeholders in an expression, from left to right. -/
def Expr.uses : Expr → List Use
  | .compound _ operands => usesOfAll operands
  | .not operand => operand.uses
  | .compare left _ right => left.uses ++ right.uses
  | .column _ _ => []
  | .placeholder name => [⟨name, false⟩]
  | .inList _ subject (.placeholder name) => subject.uses ++ [⟨name, true⟩]
  | .inList _ subject list => subject.uses ++ list.uses
  | .inQuery subject query => subject.uses ++ query.uses
  | .isNull _ subject => subject.uses
  | .like subject pattern => subject.uses ++ pattern.uses
  | .countRows => []
  | .count _ argument => argument.uses

/-- The uses in several expressions. -/
def usesOfAll : List Expr → List Use
  | [] => []
  | e :: rest => e.uses ++ usesOfAll rest

/-- The uses in a query: in the output columns, the joins, the filter and the order. -/
def Select.uses : Select → List Use
  | ⟨columns, _, joins, filter, order, _, _⟩ =>
    columnUses columns ++ joinUses joins ++ usesOfAll filter ++ orderUses order

def columnUses : List SelectItem → List Use
  | [] => []
  | ⟨e, _⟩ :: rest => e.uses ++ columnUses rest

def joinUses : List Join → List Use
  | [] => []
  | ⟨_, _, e⟩ :: rest => e.uses ++ joinUses rest

def orderUses : List OrderTerm → List Use
  | [] => []
  | ⟨e, _⟩ :: rest => e.uses ++ orderUses rest

end

/-- The uses of placeholders in a statement. -/
def Statement.uses : Statement → List Use
  | .query select => select.uses
  | .insert _ values => usesOfAll (values.map (·.2))
  | .update _ assignments filter => usesOfAll (assignments.map (·.2)) ++ usesOfAll filter
  | .delete _ filter => usesOfAll filter

theorem usesOfAll_eq (es : List Expr) : usesOfAll es = es.flatMap Expr.uses := by
  induction es with
  | nil => rfl
  | cons e rest ih => rw [usesOfAll, ih, List.flatMap_cons]

/-! ## Names of uses -/

mutual

theorem Expr.names_uses (e : Expr) : e.uses.map (·.name) = e.placeholders := by
  match e with
  | .compound _ operands => simp [Expr.uses, Expr.placeholders, names_usesOfAll operands]
  | .not operand | .isNull _ operand | .count _ operand =>
    simp [Expr.uses, Expr.placeholders, operand.names_uses]
  | .compare left _ right | .like left right =>
    simp [Expr.uses, Expr.placeholders, left.names_uses, right.names_uses]
  | .inList _ subject list =>
    have names := list.names_uses
    cases list <;> simp_all [Expr.uses, Expr.placeholders, subject.names_uses]
  | .inQuery subject query =>
    simp [Expr.uses, Expr.placeholders, subject.names_uses, query.names_uses]
  | .column _ _ | .placeholder _ | .countRows => rfl

theorem names_usesOfAll (es : List Expr) :
    (usesOfAll es).map (·.name) = placeholdersAll es := by
  match es with
  | [] => rfl
  | e :: rest => simp [usesOfAll, placeholdersAll, e.names_uses, names_usesOfAll rest]

theorem Select.names_uses (q : Select) : q.uses.map (·.name) = q.placeholders := by
  match q with
  | ⟨columns, _, joins, filter, order, _, _⟩ =>
    simp [Select.uses, Select.placeholders, names_columnUses columns, names_joinUses joins,
      names_usesOfAll filter, names_orderUses order]

theorem names_columnUses (items : List SelectItem) :
    (columnUses items).map (·.name) = columnPlaceholders items := by
  match items with
  | [] => rfl
  | ⟨e, _⟩ :: rest => simp [columnUses, columnPlaceholders, e.names_uses, names_columnUses rest]

theorem names_joinUses (joins : List Join) :
    (joinUses joins).map (·.name) = joinPlaceholders joins := by
  match joins with
  | [] => rfl
  | ⟨_, _, on⟩ :: rest => simp [joinUses, joinPlaceholders, on.names_uses, names_joinUses rest]

theorem names_orderUses (terms : List OrderTerm) :
    (orderUses terms).map (·.name) = orderPlaceholders terms := by
  match terms with
  | [] => rfl
  | ⟨e, _⟩ :: rest => simp [orderUses, orderPlaceholders, e.names_uses, names_orderUses rest]

end

theorem Statement.names_uses (s : Statement) : s.uses.map (·.name) = s.placeholders := by
  cases s <;>
    simp [Statement.uses, Statement.placeholders, Select.names_uses, names_usesOfAll]

/-! ## Marks of values -/

/-- What the use refers to is no list unless a list is taken there, and no item of it is a list. -/
structure Use.InPlace (params : List Parameter) (use : Use) : Prop where
  list : ∀ p, parameter? params use.name = some p → p.value.isList = true → use.inList = true
  items : ∀ b ∈ valuesOf params use.name, b.value.isList = false

theorem Parameter.expansion_single {p : Parameter} (single : p.value.isList = false) :
    p.expansion = [⟨p.value, p.type⟩] := by
  unfold expansion
  split
  · rename_i isList
    rw [isList] at single
    cases single
  · rfl

theorem Parameter.isList_expansion {p : Parameter} :
    (∀ b ∈ p.expansion, b.value.isList = false) ↔ p.value.isNested = false := by
  obtain ⟨name, value, type⟩ := p
  cases value with
  | list items => simp [expansion, Value.isNested]
  | _ => simp [expansion, Value.isNested, Value.isList]

theorem Use.inPlace_iff {params : List Parameter} {use : Use} {p : Parameter}
    (found : parameter? params use.name = some p) :
    use.InPlace params ↔
      (p.value.isList = true → use.inList = true) ∧ p.value.isNested = false := by
  rw [← Parameter.isList_expansion, ← valuesOf_eq_expansion found]
  constructor
  · rintro ⟨list, items⟩
    exact ⟨list p found, items⟩
  · rintro ⟨list, items⟩
    refine ⟨fun q found' => ?_, items⟩
    obtain rfl := Option.some.inj (found.symm.trans found')
    exact list

theorem Use.inPlace_of_unbound {params : List Parameter} {use : Use}
    (missing : parameter? params use.name = none) : use.InPlace params where
  list p found := by
    rw [missing] at found
    cases found
  items b isItem := by
    rw [valuesOf_of_unbound missing] at isItem
    cases isItem

theorem Piece.spelled_single {flavor : Flavor} (unnamed : flavor ≠ .named) (name : String) (n : Nat) :
    Piece.spelled flavor ⟨.placeholder name, [n]⟩ = flavor.marker n := by
  simp [spelled, unnamed]

def Fragment.isPlaceholder : Fragment → Bool
  | .placeholder _ => true
  | _ => false

theorem filter_mark?_isPlaceholder (nodes : List Expr) :
    (nodes.filterMap Expr.mark?).filter Fragment.isPlaceholder =
      (nodes.filterMap Expr.placeholder?).map .placeholder := by
  rw [List.filter_filterMap, List.map_filterMap]
  refine List.filterMap_congr fun node _ => ?_
  match node with
  | .compound _ [] | .compound _ (_ :: _) | .placeholder _ | .not _ | .compare _ _ _
  | .column _ _ | .inList _ _ _ | .inQuery _ _ | .isNull _ _ | .like _ _ | .countRows
  | .count _ _ => rfl

/-- The placeholders are written in the order of their uses. -/
theorem Statement.filter_fragments (s : Statement) :
    s.fragments.filter Fragment.isPlaceholder = s.uses.map fun use => .placeholder use.name := by
  have among : s.fragments.filter Fragment.isPlaceholder =
      (marks s.fragments).filter Fragment.isPlaceholder := by
    rw [marks, List.filter_filter]
    exact List.filter_congr fun f _ => by cases f <;> rfl
  rw [among, s.marks_fragments, filter_mark?_isPlaceholder, ← s.placeholders_eq, ← s.names_uses,
    List.map_map]
  rfl

/-- A placeholder of a statement that can be written has a parameter. -/
theorem Statement.parameter?_of_use {s : Statement} {params : List Parameter} {use : Use}
    (faultless : ∀ node ∈ s.nodes, node.fault? params = none) (isUse : use ∈ s.uses) :
    ∃ p, parameter? params use.name = some p := by
  have mentioned : use.name ∈ s.placeholders := s.names_uses ▸ List.mem_map_of_mem isUse
  rw [s.placeholders_eq, List.mem_filterMap] at mentioned
  obtain ⟨node, isNode, isName⟩ := mentioned
  have writable := faultless node isNode
  cases node <;> cases isName
  rw [fault?_placeholder] at writable
  cases found : parameter? params use.name with
  | none => rw [found] at writable; cases writable
  | some p => exact ⟨p, rfl⟩

end Sql

open Sql

/-- Lists are bound for the list of an `IN` only, and item by item. -/
def Request.ListsInPlace (r : Request) : Prop := ∀ use ∈ r.statement.uses, use.InPlace r.params

/-- The request is written with one mark, in every flavor that counts positions, for each placeholder
that is not the list of an `IN`. -/
def Request.MarksSingles (r : Request) : Prop :=
  ∃ written : List Piece,
    (∀ flavor, (r.statement.render flavor r.params).outcome =
      .ok (String.join (written.map (·.spelled flavor)) ++ ";")) ∧
    List.Forall₂ (fun (use : Use) (piece : Piece) => piece.fragment = .placeholder use.name ∧
        (use.inList = false →
          ∃ n, ∀ flavor, flavor ≠ .named → piece.spelled flavor = flavor.marker n))
      r.statement.uses (written.filter (·.fragment.isPlaceholder))

theorem Request.ListsInPlace.marksSingles {r : Request} (inPlace : r.ListsInPlace) {flavor : Flavor}
    {sql : String} (rendered : (r.statement.render flavor r.params).outcome = .ok sql) :
    r.MarksSingles := by
  have faultless := Statement.faultless_of_render rendered
  have text := Statement.render_pieces (List.findSome?_eq_none_iff.mpr faultless)
  refine ⟨pieces r.params 0 r.statement.fragments, fun flavor => by rw [text], ?_⟩
  have inOrder : ((pieces r.params 0 r.statement.fragments).filter
      (·.fragment.isPlaceholder)).map (·.fragment) =
        r.statement.uses.map fun use => .placeholder use.name := by
    rw [← r.statement.filter_fragments, ← fragments_pieces r.params r.statement.fragments 0,
      List.filter_map, fragments_pieces]
    rfl
  have aligned : List.Forall₂ (fun (use : Use) (piece : Piece) =>
      piece.fragment = .placeholder use.name) r.statement.uses
        ((pieces r.params 0 r.statement.fragments).filter (·.fragment.isPlaceholder)) := by
    rw [← List.forall₂_map_right_iff (f := Piece.fragment) (R := fun (use : Use) f =>
      f = .placeholder use.name), inOrder, List.forall₂_map_right_iff, List.forall₂_same]
    exact fun _ _ => rfl
  refine (forall₂_and_mem aligned).imp fun use piece ⟨placed, isUse, isPiece⟩ => ⟨placed, ?_⟩
  intro single
  obtain ⟨p, found⟩ := Statement.parameter?_of_use faultless isUse
  have notList : p.value.isList = false := by
    cases isList : p.value.isList with
    | false => rfl
    | true => rw [(inPlace use isUse).list p found isList] at single; cases single
  have length := length_positions _ _ (List.mem_filter.mp isPiece).1
  rw [placed, Writing.boundFor, valuesOf_eq_expansion found,
    Parameter.expansion_single notList] at length
  obtain ⟨n, only⟩ := List.length_eq_one_iff.mp length
  obtain ⟨fragment, positions⟩ := piece
  cases placed
  cases only
  exact ⟨n, fun flavor unnamed => Piece.spelled_single unnamed use.name n⟩

end Relmap
