import Relmap.Proofs.Sql.Nodes

/-!
# Values bound by rendering

Rendering walks the fragments of a statement, while the placeholders are collected from its tree.
Main statement, `render_binds_placeholders`: in every flavor, and whether or not rendering fails,
the bound values are those of the placeholders in their order; rendering fails iff a placeholder
has no parameter or a compound condition no operands, and with the fault of the first such node.
-/

namespace Relmap.Sql

/-- The values that a name stands for: the items of the first parameter of that name if it is a
list, and its value if it is not. A name without a parameter stands for nothing. -/
def valuesOf (params : List Parameter) (name : String) : List BoundValue :=
  match params.find? fun p => p.name == name with
  | none => []
  | some ⟨_, .list items, type⟩ => items.map fun item => ⟨item, type⟩
  | some ⟨_, value, type⟩ => [⟨value, type⟩]

/-- What makes it impossible to render an expression itself, apart from those inside it. -/
def Expr.fault? (params : List Parameter) : Expr → Option Error
  | .placeholder name =>
    if params.any fun p => p.name == name then none
    else some (.statement (.unboundPlaceholder name))
  | .compound connective [] => some (.statement (.emptyOperands connective.keyword))
  | _ => none

theorem valuesOf_eq_expansion {params : List Parameter} {name : String} {p : Parameter}
    (found : parameter? params name = some p) : valuesOf params name = p.expansion := by
  unfold parameter? at found
  obtain ⟨_, value, _⟩ := p
  cases value <;> simp [valuesOf, found, Parameter.expansion]

theorem valuesOf_of_unbound {params : List Parameter} {name : String}
    (missing : parameter? params name = none) : valuesOf params name = [] := by
  unfold parameter? at missing
  simp [valuesOf, missing]

theorem parameter?_eq_none {params : List Parameter} {name : String} :
    parameter? params name = none ↔ name ∉ params.map (·.name) := by
  simp [parameter?]

/-- Parameters under different names are found by them. -/
theorem parameter?_of_nodup {params : List Parameter} (nodup : (params.map (·.name)).Nodup)
    {p : Parameter} (member : p ∈ params) : parameter? params p.name = some p := by
  induction params with
  | nil => cases member
  | cons first rest ih =>
    obtain ⟨absent, later⟩ := List.nodup_cons.mp nodup
    unfold parameter? at ih ⊢
    rcases List.mem_cons.mp member with rfl | member
    · simp
    · have other : first.name ≠ p.name := fun same =>
        absent (List.mem_map.mpr ⟨p, member, same.symm⟩)
      rw [List.find?_cons_of_neg (by simpa using other), ih later member]

/-- A placeholder is at fault iff no parameter has its name. -/
theorem fault?_placeholder (params : List Parameter) (name : String) :
    Expr.fault? params (.placeholder name) =
      match parameter? params name with
      | some _ => none
      | none => some (.statement (.unboundPlaceholder name)) := by
  cases found : parameter? params name with
  | none =>
    have absent : ∀ p ∈ params, ¬p.name = name := by simpa [parameter?] using found
    simpa [Expr.fault?] using absent
  | some p =>
    have named : p.name = name := by simpa using List.find?_some found
    have member : p ∈ params := List.mem_of_find?_eq_some found
    simpa [Expr.fault?] using ⟨p, member, named⟩

/-! ## What writing leaves behind -/

namespace Writing

variable (flavor : Flavor) (params : List Parameter)

@[simp] theorem values_empty : empty.values = [] := rfl

@[simp] theorem error_empty : empty.error = none := rfl

@[simp] theorem values_write (w : Writing) (s : String) : (w.write s).values = w.values := rfl

@[simp] theorem error_write (w : Writing) (s : String) : (w.write s).error = w.error := rfl

@[simp] theorem values_fail (w : Writing) (e : Error) : (w.fail e).values = w.values := by
  unfold fail
  split <;> rfl

@[simp] theorem error_fail (w : Writing) (e : Error) : (w.fail e).error = w.error.or (some e) := by
  unfold fail
  split <;> simp_all

/-- Positions are written in every flavor but the named one. -/
theorem writePositions_keeps {flavor : Flavor} (unnamed : flavor ≠ .named) (w : Writing)
    (positions : List Nat) :
    (w.writePositions flavor positions).values = w.values ∧
      (w.writePositions flavor positions).error = w.error := by
  induction positions generalizing w with
  | nil => exact ⟨rfl, rfl⟩
  | cons n rest ih =>
    obtain ⟨s, written⟩ : ∃ s, flavor.position n = .ok s := by
      cases flavor
      · exact absurd rfl unnamed
      all_goals exact ⟨_, rfl⟩
    simp only [writePositions, written]
    split
    · simpa using ih (w.write s)
    · simpa using ih ((w.write s).write ", ")

/-- Writing a bound placeholder binds nothing more, and never fails. -/
theorem writePlaceholder_keeps (w : Writing) (name : String) (positions : List Nat) :
    (w.writePlaceholder flavor name positions).values = w.values ∧
      (w.writePlaceholder flavor name positions).error = w.error := by
  by_cases named : flavor = .named
  · rw [named]
    exact ⟨rfl, rfl⟩
  · have positional : w.writePlaceholder flavor name positions =
        if positions.isEmpty then w.write "NULL" else w.writePositions flavor positions := by
      cases flavor <;> simp_all [writePlaceholder]
    rw [positional]
    split
    · exact ⟨rfl, rfl⟩
    · exact writePositions_keeps named w positions

/-- The values that are bound for a fragment. -/
def boundFor : Fragment → List BoundValue
  | .placeholder name => valuesOf params name
  | _ => []

/-- The error of a fragment. -/
def errorOf : Fragment → Option Error
  | .placeholder name => Expr.fault? params (.placeholder name)
  | .missingOperands connective => some (.statement (.emptyOperands connective.keyword))
  | _ => none

theorem writeFragment_effect (w : Writing) (f : Fragment) :
    (w.writeFragment flavor params f).values = w.values ++ boundFor params f ∧
      (w.writeFragment flavor params f).error = w.error.or (errorOf params f) := by
  cases f with
  | placeholder name =>
    cases found : parameter? params name with
    | none =>
      simp [writeFragment, bind, found, boundFor, errorOf, valuesOf_of_unbound found,
        fault?_placeholder]
    | some p =>
      simp [writeFragment, bind, found, boundFor, errorOf, valuesOf_eq_expansion found,
        fault?_placeholder, writePlaceholder_keeps]
  | text _ | patternEnd | bareOffset | missingOperands _ =>
    simp [writeFragment, boundFor, errorOf]

/-- Only marks bind values or fail, and an error does not stop the binding. -/
theorem writeAll_effect (w : Writing) (fragments : List Fragment) :
    (w.writeAll flavor params fragments).values =
        w.values ++ (marks fragments).flatMap (boundFor params) ∧
      (w.writeAll flavor params fragments).error =
        w.error.or ((marks fragments).findSome? (errorOf params)) := by
  induction fragments generalizing w with
  | nil => simp [writeAll]
  | cons f rest ih =>
    obtain ⟨values, error⟩ := writeFragment_effect flavor params w f
    obtain ⟨restValues, restError⟩ := ih (w.writeFragment flavor params f)
    simp only [writeAll, List.foldl_cons] at restValues restError ⊢
    rw [restValues, restError, values, error]
    cases f with
    | text _ | patternEnd | bareOffset => simp [boundFor, errorOf]
    | placeholder name =>
      cases raised : errorOf params (.placeholder name) <;>
        simp [raised]
    | missingOperands connective => simp [boundFor, errorOf, List.findSome?_cons]

end Writing

/-! ## Rendering a statement -/

theorem values_of_nodes (params : List Parameter) (nodes : List Expr) :
    (nodes.filterMap Expr.mark?).flatMap (Writing.boundFor params) =
      (nodes.filterMap Expr.placeholder?).flatMap (valuesOf params) := by
  induction nodes with
  | nil => rfl
  | cons e rest ih =>
    match e with
    | .compound _ [] | .compound _ (_ :: _) | .placeholder _ | .not _ | .compare _ _ _
    | .column _ _ | .inList _ _ _ | .inQuery _ _ | .isNull _ _ | .like _ _ | .countRows
    | .count _ _ =>
      simpa [List.filterMap_cons, Expr.mark?, Expr.placeholder?, Writing.boundFor] using ih

theorem fault_of_nodes (params : List Parameter) (nodes : List Expr) :
    (nodes.filterMap Expr.mark?).findSome? (Writing.errorOf params) =
      nodes.findSome? (Expr.fault? params) := by
  induction nodes with
  | nil => rfl
  | cons e rest ih =>
    match e with
    | .placeholder name =>
      simp only [List.filterMap_cons, List.findSome?_cons, Expr.mark?, Writing.errorOf, ih]
    | .compound _ [] =>
      simp [List.findSome?_cons, Expr.mark?, Expr.fault?, Writing.errorOf]
    | .compound _ (_ :: _) | .not _ | .compare _ _ _ | .column _ _ | .inList _ _ _ | .inQuery _ _
    | .isNull _ _ | .like _ _ | .countRows | .count _ _ =>
      simpa [List.filterMap_cons, List.findSome?_cons, Expr.mark?, Expr.fault?] using ih

theorem render_effect (flavor : Flavor) (params : List Parameter) (fragments : List Fragment) :
    (render flavor params fragments).values =
        (marks fragments).flatMap (Writing.boundFor params) ∧
      ∀ e, (render flavor params fragments).outcome = .error e ↔
        (marks fragments).findSome? (Writing.errorOf params) = some e := by
  obtain ⟨values, error⟩ := Writing.writeAll_effect flavor params .empty fragments
  refine ⟨by simpa [render] using values, fun e => ?_⟩
  simp only [render, error, Writing.error_empty, Option.none_or]
  cases (marks fragments).findSome? (Writing.errorOf params) <;> simp

/-- An expression is at fault iff it is a placeholder without a parameter or a compound condition
without operands. -/
theorem isSome_fault?_iff (params : List Parameter) (e : Expr) :
    (e.fault? params).isSome ↔
      (∃ name, e.placeholder? = some name ∧ ∀ p ∈ params, p.name ≠ name) ∨
        ∃ connective, e = .compound connective [] := by
  match e with
  | .placeholder name =>
    simp [Expr.fault?, Expr.placeholder?]
  | .compound _ [] | .compound _ (_ :: _) | .not _ | .compare _ _ _ | .column _ _ | .inList _ _ _
  | .inQuery _ _ | .isNull _ _ | .like _ _ | .countRows | .count _ _ =>
    simp [Expr.fault?, Expr.placeholder?]

theorem Statement.values_render (s : Statement) (flavor : Flavor) (params : List Parameter) :
    (s.render flavor params).values = s.placeholders.flatMap (valuesOf params) := by
  obtain ⟨values, -⟩ := render_effect flavor params (s.fragments ++ [.text ";"])
  rw [Statement.render, values, s.placeholders_eq, ← values_of_nodes]
  simp [s.marks_fragments]

theorem Statement.outcome_render (s : Statement) (flavor : Flavor) (params : List Parameter)
    (e : Error) : (s.render flavor params).outcome = .error e ↔
      s.nodes.findSome? (Expr.fault? params) = some e := by
  obtain ⟨-, outcome⟩ := render_effect flavor params (s.fragments ++ [.text ";"])
  rw [Statement.render, outcome]
  simp [s.marks_fragments, fault_of_nodes]

/-- A statement without faults is rendered in every flavor. -/
theorem Statement.render_of_faultless {s : Statement} {params : List Parameter}
    (faultless : ∀ node ∈ s.nodes, node.fault? params = none) (flavor : Flavor) :
    ∃ sql, s.render flavor params = ⟨.ok sql, s.placeholders.flatMap (valuesOf params)⟩ := by
  rw [← s.values_render flavor]
  cases outcome : (s.render flavor params).outcome with
  | ok sql => exact ⟨sql, by rw [← outcome]⟩
  | error e =>
    rw [s.outcome_render, List.findSome?_eq_none_iff.mpr faultless] at outcome
    cases outcome

theorem Statement.faultless_of_render {s : Statement} {flavor : Flavor}
    {params : List Parameter} {text : String} (rendered : (s.render flavor params).outcome = .ok text) :
    ∀ node ∈ s.nodes, node.fault? params = none := by
  refine List.findSome?_eq_none_iff.mp ?_
  cases fault : s.nodes.findSome? (Expr.fault? params) with
  | none => rfl
  | some e =>
    rw [(s.outcome_render flavor params e).mpr fault] at rendered
    cases rendered

/-- The values that rendering binds are those of the placeholders in order, in every flavor and
whatever goes wrong. Rendering fails iff a placeholder has no parameter or a compound condition has
no operands, and its error is that of the first such node in written order. -/
theorem render_binds_placeholders (s : Statement) (flavor : Flavor) (params : List Parameter) :
    (s.render flavor params).values = s.placeholders.flatMap (valuesOf params) ∧
      ((∃ e, (s.render flavor params).outcome = .error e) ↔
        (∃ name ∈ s.placeholders, ∀ p ∈ params, p.name ≠ name) ∨
          ∃ connective, .compound connective [] ∈ s.nodes) ∧
      ∀ e, (s.render flavor params).outcome = .error e ↔
        s.nodes.findSome? (Expr.fault? params) = some e := by
  refine ⟨s.values_render flavor params, ?_, s.outcome_render flavor params⟩
  have fails : (∃ e, s.nodes.findSome? (Expr.fault? params) = some e) ↔
      ∃ node ∈ s.nodes, (node.fault? params).isSome := by
    rw [← Option.isSome_iff_exists, List.findSome?_isSome_iff]
  simp only [s.outcome_render, fails, isSome_fault?_iff, s.placeholders_eq, List.mem_filterMap]
  constructor
  · rintro ⟨node, member, ⟨name, isName, unbound⟩ | ⟨connective, rfl⟩⟩
    · exact .inl ⟨name, ⟨node, member, isName⟩, unbound⟩
    · exact .inr ⟨connective, member⟩
  · rintro (⟨name, ⟨node, member, isName⟩, unbound⟩ | ⟨connective, member⟩)
    · exact ⟨node, member, .inl ⟨name, isName, unbound⟩⟩
    · exact ⟨_, member, .inr ⟨connective, rfl⟩⟩

end Relmap.Sql
