import Relmap.Proofs.Sql.Binding
import Mathlib.Algebra.Group.Prod
import Mathlib.Algebra.GroupWithZero.Nat

/-!
# One statement in all flavors

A flavor decides how the parts of a statement are spelled that are not fixed text, and nothing else.
Main statement, `flavors_agree`: all flavors fail with one error or write the same fragments, each in
its own spelling; they bind the same values; and the positions that are written are those of the
bound values, from the first to the last.
-/

namespace Relmap.Sql

/-- The mark for the value at a position. MySQL counts the marks itself. -/
def Flavor.marker (flavor : Flavor) (n : Nat) : String :=
  match flavor with
  | .named | .mysql => "?"
  | .sqlite => "?" ++ toString n
  | .postgresql => "$" ++ toString n

/-- A fragment with the positions of its values among all that are bound. -/
structure Piece where
  fragment : Fragment
  positions : List Nat

/-- The text of a piece. Flavors differ in the marks of values, in the clause after a pattern and in
what stands in front of an offset without a limit. -/
def Piece.spelled (flavor : Flavor) (p : Piece) : String :=
  match p.fragment with
  | .text s => s
  | .placeholder name =>
    if flavor = .named then ":" ++ name
    else if p.positions = [] then "NULL"
    else ", ".intercalate (p.positions.map flavor.marker)
  | .patternEnd => if flavor = .sqlite then " ESCAPE '\\'" else ""
  | .bareOffset =>
    if flavor = .sqlite then " LIMIT -1"
    else if flavor = .mysql then " LIMIT 18446744073709551615"
    else ""
  | .missingOperands _ => ""

/-- Fragments with the positions that their values take after `taken` others. -/
def pieces (params : List Parameter) (taken : Nat) : List Fragment → List Piece
  | [] => []
  | f :: rest =>
    let count := (Writing.boundFor params f).length
    ⟨f, List.range' (taken + 1) count⟩ :: pieces params (taken + count) rest

section

variable (params : List Parameter) (fragments : List Fragment)

theorem fragments_pieces (taken : Nat) :
    (pieces params taken fragments).map (·.fragment) = fragments := by
  induction fragments generalizing taken with
  | nil => rfl
  | cons f rest ih => rw [pieces, List.map_cons, ih]

theorem length_positions {taken : Nat} {p : Piece} (member : p ∈ pieces params taken fragments) :
    p.positions.length = (Writing.boundFor params p.fragment).length := by
  induction fragments generalizing taken with
  | nil => cases member
  | cons f rest ih =>
    rcases List.mem_cons.mp member with rfl | later
    · exact List.length_range'
    · exact ih later

theorem pieces_append (taken : Nat) (more : List Fragment) :
    pieces params taken (fragments ++ more) = pieces params taken fragments ++
      pieces params (taken + (fragments.flatMap (Writing.boundFor params)).length) more := by
  induction fragments generalizing taken with
  | nil => rfl
  | cons f rest ih =>
    rw [List.cons_append, pieces, pieces, ih, List.flatMap_cons, List.length_append, Nat.add_assoc,
      List.cons_append]

/-- The positions go on without gaps. -/
theorem positions_pieces (taken : Nat) :
    (pieces params taken fragments).flatMap (·.positions) =
      List.range' (taken + 1) (fragments.flatMap (Writing.boundFor params)).length := by
  induction fragments generalizing taken with
  | nil => rfl
  | cons f rest ih =>
    rw [pieces, List.flatMap_cons, ih, List.flatMap_cons, List.length_append,
      ← List.range'_append_1, Nat.add_right_comm]

end

/-! ## Spelling -/

namespace Writing

variable {flavor : Flavor} {params : List Parameter}

@[simp] theorem text_write (w : Writing) (s : String) : (w.write s).text = w.text ++ s := rfl

/-- Positions are written by their marks, between commas. -/
theorem text_writePositions (unnamed : flavor ≠ .named) (w : Writing) (positions : List Nat) :
    (w.writePositions flavor positions).text =
      w.text ++ ", ".intercalate (positions.map flavor.marker) := by
  have marked : ∀ n, flavor.position n = .ok (flavor.marker n) := by
    cases flavor with
    | named => exact absurd rfl unnamed
    | sqlite | postgresql | mysql => exact fun _ => rfl
  induction positions generalizing w with
  | nil => exact String.append_empty.symm
  | cons n rest ih =>
    simp only [writePositions, marked]
    rw [ih]
    cases rest with
    | nil => simp
    | cons m later => simp [String.append_assoc]

theorem text_writePlaceholder (w : Writing) (name : String) (positions : List Nat) :
    (w.writePlaceholder flavor name positions).text =
      w.text ++ Piece.spelled flavor ⟨.placeholder name, positions⟩ := by
  by_cases named : flavor = .named
  · subst named
    rfl
  · have positional : w.writePlaceholder flavor name positions =
        if positions.isEmpty then w.write "NULL" else w.writePositions flavor positions := by
      cases flavor <;> simp_all [writePlaceholder]
    rw [positional, Piece.spelled]
    simp only [named, if_false, List.isEmpty_iff]
    split
    · rfl
    · exact text_writePositions named w positions

theorem text_writeFragment {f : Fragment} (writable : errorOf params f = none) (w : Writing) :
    (w.writeFragment flavor params f).text = w.text ++ Piece.spelled flavor
      ⟨f, List.range' (w.values.length + 1) (boundFor params f).length⟩ := by
  cases f with
  | placeholder name =>
    cases found : parameter? params name with
    | none => simp [errorOf, fault?_placeholder, found] at writable
    | some p =>
      simp only [writeFragment, bind, found, text_writePlaceholder, boundFor,
        valuesOf_eq_expansion found]
  | text s => rfl
  | patternEnd => cases flavor <;> rfl
  | bareOffset => cases flavor <;> rfl
  | missingOperands connective => cases writable

/-- Fragments that can be written are written one after the other. -/
theorem text_writeAll {fragments : List Fragment}
    (writable : ∀ f ∈ fragments, errorOf params f = none) (w : Writing) :
    (w.writeAll flavor params fragments).text =
      w.text ++ String.join ((pieces params w.values.length fragments).map (·.spelled flavor)) := by
  induction fragments generalizing w with
  | nil => exact String.append_empty.symm
  | cons f rest ih =>
    obtain ⟨here, later⟩ := List.forall_mem_cons.mp writable
    obtain ⟨values, -⟩ := writeFragment_effect flavor params w f
    have written := ih later (w.writeFragment flavor params f)
    simp only [writeAll, List.foldl_cons] at written ⊢
    rw [written, text_writeFragment here, values, List.length_append, pieces, List.map_cons,
      String.join_cons, String.append_assoc]

end Writing

theorem boundFor_marks (params : List Parameter) (fragments : List Fragment) :
    (marks fragments).flatMap (Writing.boundFor params) =
      fragments.flatMap (Writing.boundFor params) := by
  induction fragments with
  | nil => rfl
  | cons f rest ih => cases f <;> simp [Writing.boundFor, ih]

theorem errorOf_marks {params : List Parameter} {fragments : List Fragment}
    (faultless : (marks fragments).findSome? (Writing.errorOf params) = none) :
    ∀ f ∈ fragments, Writing.errorOf params f = none := by
  intro f member
  cases isMark : f.isMark with
  | true =>
    exact List.findSome?_eq_none_iff.mp faultless f (List.mem_filter.mpr ⟨member, isMark⟩)
  | false => cases f <;> first | rfl | cases isMark

theorem render_pieces {params : List Parameter} {fragments : List Fragment}
    (faultless : (marks fragments).findSome? (Writing.errorOf params) = none) (flavor : Flavor) :
    render flavor params fragments =
      ⟨.ok (String.join ((pieces params 0 fragments).map (·.spelled flavor))),
        fragments.flatMap (Writing.boundFor params)⟩ := by
  obtain ⟨values, error⟩ := Writing.writeAll_effect flavor params .empty fragments
  have text := @Writing.text_writeAll flavor params fragments (errorOf_marks faultless) .empty
  rw [render, values, error, text, faultless, boundFor_marks]
  rfl

theorem Statement.boundFor_fragments (s : Statement) (params : List Parameter) :
    s.fragments.flatMap (Writing.boundFor params) = s.placeholders.flatMap (valuesOf params) := by
  rw [← boundFor_marks, s.marks_fragments, values_of_nodes, s.placeholders_eq]

/-- A statement without faults is written piece by piece. -/
theorem Statement.render_pieces {s : Statement} {params : List Parameter}
    (faultless : s.nodes.findSome? (Expr.fault? params) = none) (flavor : Flavor) :
    s.render flavor params =
      ⟨.ok (String.join ((pieces params 0 s.fragments).map (·.spelled flavor)) ++ ";"),
        s.placeholders.flatMap (valuesOf params)⟩ := by
  have ended : (marks (s.fragments ++ [.text ";"])).findSome? (Writing.errorOf params) = none := by
    rw [marks_append, s.marks_fragments, marks_text, marks_nil, List.append_nil, fault_of_nodes]
    exact faultless
  rw [Statement.render, Sql.render_pieces ended, pieces_append, List.flatMap_append,
    s.boundFor_fragments, List.map_append, String.join_append]
  simp [pieces, Piece.spelled, Writing.boundFor]

/-! ## Where flavors differ -/

/-- The query skips rows but has no limit. -/
def Select.isUnlimited (q : Select) : Bool := q.limit.isNone && q.offset.isSome

namespace Expr

def isLike : Expr → Bool
  | .like _ _ => true
  | _ => false

/-- The expression reads from a query that skips rows but has no limit. -/
def readsUnlimited : Expr → Bool
  | .inQuery _ query => query.isUnlimited
  | _ => false

/-- What an expression itself leaves to the flavor, apart from placeholders: the ends of patterns and
the offsets without a limit, counted. -/
def choices (e : Expr) : Nat × Nat := (e.isLike.toNat, e.readsUnlimited.toNat)

end Expr

/-- The ends of patterns among fragments and the offsets without a limit, counted. -/
def choicesIn (fragments : List Fragment) : Nat × Nat :=
  (fragments.count .patternEnd, fragments.count .bareOffset)

@[simp] theorem choicesIn_nil : choicesIn [] = 0 := rfl

@[simp] theorem choicesIn_append (left right : List Fragment) :
    choicesIn (left ++ right) = choicesIn left + choicesIn right := by
  simp [choicesIn]

@[simp] theorem choicesIn_text (s : String) (rest : List Fragment) :
    choicesIn (.text s :: rest) = choicesIn rest := by
  simp [choicesIn]

@[simp] theorem choicesIn_separated (separator : String) (parts : List (List Fragment)) :
    choicesIn (separated separator parts) = (parts.map choicesIn).sum := by
  induction parts with
  | nil => rfl
  | cons part rest ih =>
    cases rest with
    | nil => simp [separated]
    | cons next later => simp [separated, ih]

@[simp] theorem choicesIn_operandFragments (connective : Connective)
    (parts : List (List Fragment)) :
    choicesIn (operandFragments connective parts) = (parts.map choicesIn).sum := by
  match parts with
  | [] => rfl
  | [part] => simp [operandFragments]
  | first :: second :: rest => simp [operandFragments, Function.comp_def]

@[simp] theorem choicesIn_filterFragments (parts : List (List Fragment)) :
    choicesIn (filterFragments parts) = (parts.map choicesIn).sum := by
  cases parts with
  | nil => rfl
  | cons part rest => simp [filterFragments]

@[simp] theorem choicesIn_tableRef (t : TableRef) : choicesIn t.fragments = 0 := by
  unfold TableRef.fragments
  split <;> simp

theorem choicesIn_pageFragments (limit offset : Option Nat) :
    choicesIn (pageFragments limit offset) = (0, (limit.isNone && offset.isSome).toNat) := by
  cases limit <;> cases offset <;> rfl

/-- What nodes leave to the flavor. -/
def choicesOf (nodes : List Expr) : Nat × Nat := (nodes.map Expr.choices).sum

@[simp] theorem choicesOf_nil : choicesOf [] = 0 := rfl

@[simp] theorem choicesOf_cons (e : Expr) (rest : List Expr) :
    choicesOf (e :: rest) = e.choices + choicesOf rest := by
  simp [choicesOf]

@[simp] theorem choicesOf_append (left right : List Expr) :
    choicesOf (left ++ right) = choicesOf left + choicesOf right := by
  simp [choicesOf]

theorem choicesOf_eq (nodes : List Expr) :
    choicesOf nodes = (nodes.countP Expr.isLike, nodes.countP Expr.readsUnlimited) := by
  induction nodes with
  | nil => rfl
  | cons e rest ih =>
    rw [choicesOf_cons, ih, List.countP_cons, List.countP_cons, Expr.choices, Prod.mk_add_mk]
    cases e.isLike <;> cases e.readsUnlimited <;> simp [Nat.add_comm]

mutual

theorem Expr.choices_fragments (e : Expr) : choicesIn e.fragments = choicesOf e.nodes := by
  match e with
  | .compound connective operands =>
    simp [Expr.fragments, Expr.nodes, choices_fragmentsEach operands, Expr.choices, Expr.isLike,
      Expr.readsUnlimited]
  | .not operand | .isNull _ operand | .count _ operand =>
    simp [Expr.fragments, Expr.nodes, operand.choices_fragments, Expr.choices, Expr.isLike,
      Expr.readsUnlimited]
  | .compare left _ right | .inList _ left right =>
    simp [Expr.fragments, Expr.nodes, left.choices_fragments, right.choices_fragments,
      Expr.choices, Expr.isLike, Expr.readsUnlimited]
  | .like subject pattern =>
    have own : (Expr.like subject pattern).choices = choicesIn [.patternEnd] := rfl
    simp only [Expr.fragments, Expr.nodes, choicesIn_append, choicesIn_text, choicesOf_cons,
      choicesOf_append, own, subject.choices_fragments, pattern.choices_fragments]
    ac_rfl
  | .inQuery subject query =>
    have own : (Expr.inQuery subject query).choices = (0, query.isUnlimited.toNat) := rfl
    simp only [Expr.fragments, Expr.nodes, choicesIn_append, choicesIn_text, choicesOf_cons,
      choicesOf_append, choicesIn_nil, add_zero, own, subject.choices_fragments,
      query.choices_fragments]
    ac_rfl
  | .column (some _) _ | .column none _ | .placeholder _ | .countRows => rfl

theorem choices_fragmentsEach (es : List Expr) :
    ((fragmentsEach es).map choicesIn).sum = choicesOf (nodesOfAll es) := by
  match es with
  | [] => rfl
  | e :: rest =>
    simp [fragmentsEach, nodesOfAll, e.choices_fragments, choices_fragmentsEach rest]

theorem Select.choices_fragments (q : Select) :
    choicesIn q.fragments = choicesOf q.nodes + (0, q.isUnlimited.toNat) := by
  match q with
  | ⟨columns, source, joins, filter, order, limit, offset⟩ =>
    have shown : choicesIn (if columns.isEmpty then [.text "*"]
        else separated ", " (columnFragments columns)) = choicesOf (columnNodes columns) := by
      cases columns with
      | nil => rfl
      | cons item rest => simpa using choices_columnFragments (item :: rest)
    have ordered : choicesIn (if order.isEmpty then []
        else .text " ORDER BY " :: separated ", " (orderFragments order)) =
          choicesOf (orderNodes order) := by
      cases order with
      | nil => rfl
      | cons term rest => simpa using choices_orderFragments (term :: rest)
    cases source <;>
      simp only [Select.fragments, Select.nodes, choicesIn_append, choicesIn_text, shown, ordered,
        choicesIn_tableRef, choices_joinFragments joins, choicesIn_filterFragments, choicesIn_nil,
        choices_fragmentsEach filter, choicesIn_pageFragments, choicesOf_append, add_zero,
        Select.isUnlimited]

theorem choices_columnFragments (items : List SelectItem) :
    ((columnFragments items).map choicesIn).sum = choicesOf (columnNodes items) := by
  match items with
  | [] => rfl
  | ⟨e, some _⟩ :: rest | ⟨e, none⟩ :: rest =>
    simp [columnFragments, columnNodes, e.choices_fragments, choices_columnFragments rest]

theorem choices_joinFragments (joins : List Join) :
    choicesIn (joinFragments joins) = choicesOf (joinNodes joins) := by
  match joins with
  | [] => rfl
  | ⟨_, _, on⟩ :: rest =>
    simp [joinFragments, joinNodes, on.choices_fragments, choices_joinFragments rest]

theorem choices_orderFragments (terms : List OrderTerm) :
    ((orderFragments terms).map choicesIn).sum = choicesOf (orderNodes terms) := by
  match terms with
  | [] => rfl
  | ⟨e, _⟩ :: rest =>
    simp [orderFragments, orderNodes, e.choices_fragments, choices_orderFragments rest]

end

/-- The query that an expression reads from. -/
def Expr.query? : Expr → Option Select
  | .inQuery _ query => some query
  | _ => none

/-- The queries of a statement: the statement itself if it is one, and those that its nodes read
from. -/
def Statement.queries (s : Statement) : List Select :=
  match s with
  | .query select => select :: s.nodes.filterMap Expr.query?
  | _ => s.nodes.filterMap Expr.query?

theorem countP_query? (nodes : List Expr) :
    (nodes.filterMap Expr.query?).countP Select.isUnlimited = nodes.countP Expr.readsUnlimited := by
  rw [List.countP_filterMap]
  refine List.countP_congr fun e _ => ?_
  cases e <;> rfl

theorem counts_of_choices {s : Statement} (counts : choicesIn s.fragments = choicesOf s.nodes) :
    s.fragments.count .patternEnd = s.nodes.countP Expr.isLike ∧
      s.fragments.count .bareOffset =
        (s.nodes.filterMap Expr.query?).countP Select.isUnlimited := by
  rw [choicesOf_eq, choicesIn, Prod.mk.injEq] at counts
  rwa [countP_query?]

/-- The end of a pattern is written for each comparison with one, and an offset without a limit for
each query that has one. -/
theorem Statement.choices_fragments (s : Statement) :
    s.fragments.count .patternEnd = s.nodes.countP Expr.isLike ∧
      s.fragments.count .bareOffset = s.queries.countP Select.isUnlimited := by
  cases s with
  | query select =>
    have counts := select.choices_fragments
    rw [choicesOf_eq, choicesIn, Prod.mk_add_mk, Prod.mk.injEq] at counts
    rw [queries, List.countP_cons, countP_query?]
    exact ⟨counts.1, counts.2.trans (by cases select.isUnlimited <;> rfl)⟩
  | insert table values =>
    refine counts_of_choices ?_
    have columns : ((values.map fun value => [Fragment.text value.1]).map choicesIn).sum = 0 := by
      induction values with
      | nil => rfl
      | cons value rest ih => simpa using ih
    simp only [Statement.fragments, Statement.nodes, choicesIn_append, choicesIn_text,
      choicesIn_separated, columns, choices_fragmentsEach, choicesIn_nil, zero_add, add_zero]
  | update table assignments filter =>
    refine counts_of_choices ?_
    have assigned : ((assignments.map assignmentFragments).map choicesIn).sum =
        ((fragmentsEach (assignments.map (·.2))).map choicesIn).sum := by
      induction assignments with
      | nil => rfl
      | cons assignment rest ih => simp_all [assignmentFragments, fragmentsEach]
    simp only [Statement.fragments, Statement.nodes, choicesIn_append, choicesIn_text,
      choicesIn_separated, choicesIn_filterFragments, choices_fragmentsEach, assigned,
      choicesOf_append]
  | delete table filter =>
    refine counts_of_choices ?_
    simp [Statement.fragments, Statement.nodes, choices_fragmentsEach]

/-- All flavors fail with one error, which is none of their own, or write the same fragments, each
in its spelling; and they bind the same values, whose positions are written from the first to the
last. Apart from placeholders a flavor has a choice after every pattern and in front of every offset
without a limit. -/
theorem flavors_agree (s : Statement) (params : List Parameter) :
    ∃ (written : List Piece) (values : List BoundValue),
      written.map (·.fragment) = s.fragments ∧
      s.fragments.count .patternEnd = s.nodes.countP Expr.isLike ∧
      s.fragments.count .bareOffset = s.queries.countP Select.isUnlimited ∧
      (∀ p ∈ written, p.positions.length = match p.fragment with
        | .placeholder name => (valuesOf params name).length
        | _ => 0) ∧
      written.flatMap (·.positions) = List.range' 1 values.length ∧
      ((∃ e, e ≠ .internal .positionInNamedText ∧
          ∀ flavor, s.render flavor params = ⟨.error e, values⟩) ∨
        ∀ flavor, s.render flavor params =
          ⟨.ok (String.join (written.map (·.spelled flavor)) ++ ";"), values⟩) := by
  obtain ⟨patterns, offsets⟩ := s.choices_fragments
  refine ⟨pieces params 0 s.fragments, s.placeholders.flatMap (valuesOf params),
    fragments_pieces params _ 0, patterns, offsets, fun p member => ?_, ?_, ?_⟩
  · rw [length_positions params _ member]
    cases p.fragment <;> rfl
  · rw [positions_pieces, s.boundFor_fragments]
  cases fault : s.nodes.findSome? (Expr.fault? params) with
  | none => exact .inr (s.render_pieces fault)
  | some e =>
    refine .inl ⟨e, ?_, fun flavor => ?_⟩
    · obtain ⟨node, -, raised⟩ := List.exists_of_findSome?_eq_some fault
      rintro rfl
      unfold Expr.fault? at raised
      split at raised
      · split at raised <;> cases raised
      · cases raised
      · cases raised
    · rw [← s.values_render flavor, ← (s.outcome_render flavor params e).mpr fault]

end Relmap.Sql
