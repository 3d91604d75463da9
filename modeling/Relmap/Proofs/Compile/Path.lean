import Relmap.Compile.Path
import Relmap.Proofs.Compile.Comparison

/-!
# Compiled paths

What is known of a path that has been looked up, and of the sub-select that its hops open. The
links of hops mention no placeholders, so a path keeps those of the condition at its end.
-/

namespace Relmap

open Sql

/-- A path of properties leads from a table through tables. -/
inductive Follows (r : Registry) : Metadata → List String → List Metadata → Prop
  | stay (m : Metadata) : Follows r m [] []
  | step {m target : Metadata} {property : String} {properties : List String}
      {tables : List Metadata} {relationship : Relationship} :
      m.relationshipOf property = .ok relationship →
      r.forEntity relationship.target = .ok target →
      Follows r target properties tables →
      Follows r m (property :: properties) (target :: tables)

/-- A path leads through one list of tables. -/
theorem Follows.unique {r : Registry} {m : Metadata} {properties : List String}
    {tables others : List Metadata} (follows : Follows r m properties tables)
    (too : Follows r m properties others) : tables = others := by
  induction follows generalizing others with
  | stay m =>
    cases too
    rfl
  | step leads isTarget _ ih =>
    cases too with
    | step leads' isTarget' later =>
      obtain rfl := Except.ok.inj (leads.symm.trans leads')
      obtain rfl := Except.ok.inj (isTarget.symm.trans isTarget')
      rw [ih later]

/-! ## Looking a path up -/

theorem steps_follow {r : Registry} {properties : List String} :
    ∀ {m : Metadata} {source : String} {found : List Step},
      steps r m source properties = .ok found →
        Follows r m properties (found.map Step.target) := by
  induction properties with
  | nil =>
    intro m source found ok
    cases ok
    exact .stay m
  | cons property rest ih =>
    intro m source found ok
    simp only [steps, bind_eq_ok, pure_eq_ok] at ok
    obtain ⟨relationship, leads, target, isTarget, column, _, later, followed, rfl⟩ := ok
    exact .step leads isTarget (ih followed)

theorem steps_ne_nil {r : Registry} {m : Metadata} {source : String} {properties : List String}
    {found : List Step} (some : properties ≠ []) (ok : steps r m source properties = .ok found) :
    found ≠ [] := by
  rintro rfl
  cases steps_follow ok
  exact some rfl

theorem lastTable_eq (m : Metadata) (found : List Step) :
    lastTable m found = (found.map Step.target).getLastD m := by
  simp only [lastTable, List.getLastD_eq_getLast?, List.getLast?_map]
  cases found.getLast? <;> rfl

/-- A path that is looked up ends in a column that its last table declares. -/
theorem Scope.resolvePath_ok {s : Scope} {field : String} {p : ResolvedPath}
    (ok : s.resolvePath field = .ok p) :
    steps s.registry s.metadata s.aliasName (pathParts field).1 = .ok p.steps ∧
      p.table = lastTable s.metadata p.steps ∧ p.field = lastSegment field ∧
      p.table.columns.get? p.field = some p.type := by
  simp only [Scope.resolvePath, bind_eq_ok] at ok
  obtain ⟨found, isFound, ok⟩ := ok
  split at ok
  · rename_i type declared
    cases ok
    exact ⟨isFound, rfl, pathParts_snd field, declared⟩
  · cases ok

/-! ## Placeholders of a path -/

namespace Hop

/-- The sub-select that a hop continues, opened if there is none. -/
def opened (h : Hop) (q : Select) : Select :=
  if q.hasColumns then q
  else (q.select [.of h.target h.relationship.relatedId]).from h.target h.target

theorem join_subSelect (h : Hop) (q : Select) :
    h.join .subSelect q =
      if h.source != h.root && !(h.opened q).isJoined h.target then
        (h.opened q).innerJoin h.target h.target h.link
      else h.opened q := rfl

theorem isBare_join (h : Hop) (type : JoinType) {q : Select} (bare : q.IsBare) :
    (h.join type q).IsBare := by
  have link : h.link.placeholders = [] := by simp [Hop.link]
  cases type with
  | joined =>
    simp only [Hop.join]
    split
    · exact bare
    · exact bare.addJoin link
  | subSelect =>
    have opened : (h.opened q).IsBare := by
      unfold Hop.opened
      split
      · exact bare
      · exact bare.reading _ _ _
    rw [join_subSelect]
    split
    · exact opened.addJoin link
    · exact opened

end Hop

theorem isBare_joinInner (root : String) (steps : List Step) : (joinInner root steps).IsBare := by
  have kept (q : Select) (bare : q.IsBare) : (steps.foldl (fun q step =>
      (step.hop root).join step.relationship.join q) q).IsBare := by
    induction steps generalizing q with
    | nil => exact bare
    | cons step rest ih => exact ih _ (Hop.isBare_join _ _ bare)
  exact kept .empty Select.isBare_empty

/-- Closing a path keeps the placeholders of the condition at its end. -/
theorem placeholders_closePath {steps : List Step} {condition closed : Expr}
    (ok : closePath steps condition = .ok closed) :
    closed.placeholders = condition.placeholders := by
  unfold closePath at ok
  split at ok
  · cases ok
    rfl
  · rename_i first rest _
    obtain ⟨unordered, none⟩ := isBare_joinInner first.source (first :: rest)
    cases kind : first.relationship.join <;> simp only [kind, Hop.close] at ok
    · cases ok
      rfl
    · split at ok <;> cases ok
      simp [Expr.placeholders, Select.placeholders_where unordered, none]

theorem ResolvedPath.compare_ok {p : ResolvedPath} {n : Nat} {op : Operator} {value : Value}
    {c : Compared} (ok : p.compare n op value = .ok c) :
    ∃ inner closed,
      compareColumn (.of p.table.table p.field) p.field n op value p.type = .ok inner ∧
      closePath p.steps inner.condition = .ok closed ∧ c = ⟨closed, inner.parameter⟩ := by
  simp only [ResolvedPath.compare, bind_eq_ok, pure_eq_ok] at ok
  obtain ⟨inner, compared, closed, isClosed, rfl⟩ := ok
  exact ⟨inner, closed, compared, isClosed, rfl⟩

end Relmap
