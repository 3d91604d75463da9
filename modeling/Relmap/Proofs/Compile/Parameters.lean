import Relmap.Compile.Walk
import Relmap.Proofs.Compile.Path
import Mathlib.Data.List.Forall2

/-!
# Parameters of a walk

A walk binds one parameter for each comparison that is not a null test, numbered by its place among
all parameters. Main statement, `session_parameters`: after any criteria, compiled one after the
other and each into any query, the parameters are named by their places, and so by different names;
and criteria that compile mention just the parameters that they have added, in their order.
-/

namespace Relmap

open Sql

namespace Scope

/-- A field resolves to a column of the given type: at the end of a path, or among the columns that
the table reaches. -/
def HasType (s : Scope) (field : String) (type : ColumnType) : Prop :=
  if isPath field then
    ∃ tables, Follows s.registry s.metadata (pathParts field).1 tables ∧
      (tables.getLastD s.metadata).columns.get? (lastSegment field) = some type
  else ∃ origin, s.registry.resolve s.metadata field = .ok ⟨type, origin⟩

end Scope

/-- The parameter of a comparison that has `n` parameters before it. -/
structure Leaf.Binds (s : Scope) (n : Nat) (l : Leaf) (p : Parameter) : Prop where
  name : p.name = lastSegment l.field ++ "_" ++ toString n
  value : p.value = l.boundValue
  type : if l.op.isPattern then p.type = .string else s.HasType l.field p.type

/-- The comparisons that take a parameter. -/
def bound (leaves : List Leaf) : List Leaf := leaves.filter fun l => !l.isNullTest

/-- Parameters for comparisons, one for each that takes one, in order and numbered from `n` on. -/
def Numbered (s : Scope) (n : Nat) (leaves : List Leaf) (params : List Parameter) : Prop :=
  List.Forall₂ (fun leaf p => leaf.1.Binds s leaf.2 p) ((bound leaves).zipIdx n) params

namespace Numbered

variable {s : Scope} {n : Nat}

theorem nil : Numbered s n [] [] := List.Forall₂.nil

theorem length {leaves : List Leaf} {params : List Parameter} (binds : Numbered s n leaves params) :
    params.length = (bound leaves).length := by
  simpa using (List.Forall₂.length_eq binds).symm

theorem append {leaves more : List Leaf} {params others : List Parameter}
    (binds : Numbered s n leaves params) (later : Numbered s (n + params.length) more others) :
    Numbered s n (leaves ++ more) (params ++ others) := by
  -- There is one parameter for each comparison that takes one, so the numbers go on.
  rw [Numbered, binds.length] at later
  simpa [Numbered, bound, List.zipIdx_append] using List.rel_append binds later

theorem single_test {l : Leaf} (test : l.isNullTest = true) : Numbered s n [l] [] := by
  simp [Numbered, bound, test]

theorem single {l : Leaf} {p : Parameter} (test : l.isNullTest = false) (binds : l.Binds s n p) :
    Numbered s n [l] [p] := by
  simpa [Numbered, bound, test] using binds

/-- A parameter belongs to a comparison that takes one and has the number of its place. -/
theorem at_place {leaves : List Leaf} {params : List Parameter} (binds : Numbered s n leaves params)
    {i : Nat} {p : Parameter} (place : params[i]? = some p) :
    ∃ l ∈ leaves, l.isNullTest = false ∧ l.Binds s (n + i) p := by
  obtain ⟨inside, rfl⟩ := List.getElem?_eq_some_iff.mp place
  have inLeaves : i < ((bound leaves).zipIdx n).length := by
    simpa [binds.length] using inside
  have here := List.Forall₂.get binds inLeaves inside
  rw [List.length_zipIdx] at inLeaves
  have member : (bound leaves)[i] ∈ bound leaves := List.getElem_mem inLeaves
  have kept := List.mem_filter.mp member
  exact ⟨(bound leaves)[i], kept.1, by simpa using kept.2, by simpa using here⟩

end Numbered

/-- What a part of a walk adds to its parameters: those of the comparisons that it has met, which
are all of them if it succeeds, and then its placeholders are just these parameters. -/
def Adds {α : Type} (s : Scope) (w : Walk) (leaves : List Leaf) (placeholders : α → List String)
    (r : Walked α) : Prop :=
  ∃ met added, met <+: leaves ∧ r.2.params = w.params ++ added ∧
    Numbered s w.params.length met added ∧
    ∀ a, r.1 = .ok a → met = leaves ∧ placeholders a = added.map (·.name)

namespace Adds

variable {α β : Type} {s : Scope} {w : Walk} {leaves more : List Leaf}

theorem nothing {placeholders : α → List String} {a : α} (none : placeholders a = []) :
    Adds s w [] placeholders (.ok a, w) :=
  ⟨[], [], List.nil_prefix, by simp, .nil, fun b h => by cases h; exact ⟨rfl, by simpa using none⟩⟩

theorem failed {placeholders : α → List String} {e : Error} :
    Adds s w leaves placeholders (.error e, w) :=
  ⟨[], [], List.nil_prefix, by simp, .nil, nofun⟩

theorem map {f : α → β} {placeholders : α → List String} {others : β → List String}
    {r : Walked α} (same : ∀ a, others (f a) = placeholders a)
    (adds : Adds s w leaves placeholders r) : Adds s w leaves others (r.map f) := by
  obtain ⟨met, added, front, params, numbered, all⟩ := adds
  refine ⟨met, added, front, params, numbered, fun b h => ?_⟩
  obtain ⟨a, ok, rfl⟩ : ∃ a, r.1 = .ok a ∧ f a = b := by
    simp only [Walked.map] at h
    cases outcome : r.1 <;> simp_all [Except.map]
  exact ⟨(all a ok).1, (same a).trans (all a ok).2⟩

theorem stop {placeholders : α → List String} {others : β → List String} {e : Error} {w' : Walk}
    (adds : Adds s w leaves placeholders (.error e, w')) :
    Adds s w (leaves ++ more) others (.error e, w') := by
  obtain ⟨met, added, front, params, numbered, _⟩ := adds
  exact ⟨met, added, front.trans (List.prefix_append _ _), params, numbered, nofun⟩

theorem andThen {placeholders : α → List String} {others : β → List String} {a : α} {w' : Walk}
    {r : Walked β} (adds : Adds s w leaves placeholders (.ok a, w'))
    (next : Adds s w' more others r) :
    Adds s w (leaves ++ more) (fun b => placeholders a ++ others b) r := by
  obtain ⟨met, added, _, params, numbered, all⟩ := adds
  obtain ⟨rfl, names⟩ := all a rfl
  obtain ⟨later, new, front, paramsAfter, numberedAfter, allAfter⟩ := next
  simp only at params
  rw [params] at paramsAfter numberedAfter
  refine ⟨met ++ later, added ++ new, ?_, ?_, ?_, fun b h => ?_⟩
  · exact (List.prefix_append_right_inj met).mpr front
  · simpa using paramsAfter
  · exact numbered.append (by simpa using numberedAfter)
  · obtain ⟨rfl, namesAfter⟩ := allAfter b h
    exact ⟨rfl, by simp [names, namesAfter]⟩

/-- A part that yields a condition is followed by the parts that yield the conditions after it. -/
theorem cons {r : Walked Expr} {rest : Walk → Walked (List Expr)} :
    Adds s w leaves Expr.placeholders r →
      (∀ w', Adds s w' more placeholdersAll (rest w')) →
      Adds s w (leaves ++ more) placeholdersAll
        (match r with
        | (.error e, w') => (.error e, w')
        | (.ok condition, w') => (rest w').map (condition :: ·)) := by
  intro first later
  obtain ⟨_ | condition, w'⟩ := r
  · exact first.stop
  · exact (first.andThen (later w')).map fun _ => by rw [placeholdersAll]

end Adds

/-! ## Comparisons -/

theorem numbered_parameter? {s : Scope} {n : Nat} {l : Leaf} {type : ColumnType}
    (typed : s.HasType l.field type) :
    Numbered s n [l] (l.parameter? (lastSegment l.field) n type).toList := by
  cases test : l.isNullTest with
  | true => simpa [Leaf.parameter?, test] using Numbered.single_test test
  | false =>
    simp only [Leaf.parameter?, test]
    refine .single test ⟨rfl, rfl, ?_⟩
    cases l.op.isPattern <;> simp [typed]

theorem Adds.taken {s : Scope} {w : Walk} {l : Leaf} {c : Compared} {q : Select}
    (numbered : Numbered s w.params.length [l] c.parameter.toList)
    (placeholders : c.condition.placeholders = c.parameter.toList.map (·.name)) :
    Adds s w [l] Expr.placeholders ((Walk.mk q w.params).take (.ok c)) :=
  ⟨[l], c.parameter.toList, List.prefix_rfl, rfl, numbered,
    fun e same => by cases same; exact ⟨rfl, placeholders⟩⟩

theorem adds_comparison (s : Scope) (field : String) (op : Operator) (value : Value) (w : Walk) :
    Adds s w [⟨field, op, value⟩] Expr.placeholders (w.comparison s field op value) := by
  unfold Walk.comparison
  split
  · rename_i isPath
    cases resolved : s.resolvePath field with
    | error e => exact .failed
    | ok path =>
      cases compared : path.compare w.params.length op value with
      | error e =>
        -- The joins of the path are kept, but no parameter has been added.
        simp only [compared, Walk.take]
        exact ⟨[], [], List.nil_prefix, by simp, .nil, nofun⟩
      | ok c =>
        obtain ⟨found, table, isLast, declared⟩ := Scope.resolvePath_ok resolved
        obtain ⟨inner, closed, ok, isClosed, rfl⟩ := ResolvedPath.compare_ok compared
        rw [isLast] at ok
        cases compareColumn_ok (l := ⟨field, op, value⟩) ok
        have typed : s.HasType field path.type := by
          rw [Scope.HasType, if_pos isPath]
          exact ⟨_, steps_follow found, by rw [← lastTable_eq, ← table, ← isLast, declared]⟩
        simp only [compared]
        refine .taken (numbered_parameter? typed) ?_
        simp [placeholders_closePath isClosed, placeholders_condition _ _ _ _ path.type]
  · rename_i plain
    cases compared : s.compareReached w.params.length field op value with
    | error e => exact .failed
    | ok c =>
      obtain ⟨type, origin, resolved, parameter, placeholders⟩ :=
        Scope.compareReached_ok (l := ⟨field, op, value⟩) compared
      have typed : s.HasType field type := by
        rw [Scope.HasType, if_neg plain]
        exact ⟨origin, resolved⟩
      refine .taken ?_ placeholders
      have last : lastSegment field = field := lastSegment_of_not_isPath (by simpa using plain)
      rw [parameter]
      simpa [last] using numbered_parameter? (l := ⟨field, op, value⟩) (n := w.params.length) typed

/-! ## Trees and maps -/

mutual

theorem adds_expression (s : Scope) : ∀ (e : Expression) (w : Walk),
    Adds s w e.leaves Expr.placeholders (Walk.expression s e w)
  | .comparison field op value, w => adds_comparison s field op value w
  | .composite .and [], w | .composite .or [], w | .composite .not [], w => by
    simp only [Walk.expression]
    exact .failed
  | .composite .and (e :: rest), w | .composite .or (e :: rest), w => by
    simp only [Walk.expression]
    exact (adds_operandsOf s (e :: rest) w).map fun _ => by rw [Expr.placeholders]
  | .composite .not [e], w => by
    simp only [Walk.expression, Expression.leaves, leavesOfAll, List.append_nil]
    exact (adds_expression s e w).map fun _ => by rw [Expr.placeholders]
  | .composite .not (e :: other :: rest), w => by
    simp only [Walk.expression]
    exact .failed

theorem adds_operandsOf (s : Scope) : ∀ (operands : List Expression) (w : Walk),
    Adds s w (leavesOfAll operands) placeholdersAll (Walk.operandsOf s operands w)
  | [], w => by
    simp only [Walk.operandsOf, leavesOfAll]
    exact .nothing rfl
  | e :: rest, w => by
    rw [Walk.operandsOf, leavesOfAll]
    exact (adds_expression s e w).cons (adds_operandsOf s rest)

end

theorem adds_criterion (s : Scope) (field : String) (c : Criterion) (w : Walk) :
    Adds s w (c.leaves field) Expr.placeholders (w.criterion s field c) := by
  cases c with
  | value value => exact adds_comparison s field .eq value w
  | expression e => exact adds_expression s e w

theorem adds_entries (s : Scope) (entries : Keyed Criterion) (w : Walk) :
    Adds s w (leavesOfEntries entries) placeholdersAll (Walk.entries s entries w) := by
  induction entries generalizing w with
  | nil => exact .nothing rfl
  | cons entry rest ih =>
    obtain ⟨field, c⟩ := entry
    rw [Walk.entries, leavesOfEntries, List.flatMap_cons]
    exact (adds_criterion s field c w).cons ih

/-- The placeholders of a condition, of which there are none if there is no condition. -/
def placeholdersOf (condition : Option Expr) : List String :=
  (condition.map Expr.placeholders).getD []

theorem adds_criteria (s : Scope) (c : Criteria) (w : Walk) :
    Adds s w c.leaves placeholdersOf (Walk.criteria s c w) := by
  match c with
  | .expression e => exact (adds_expression s e w).map fun _ => rfl
  | .fields [] => exact .nothing rfl
  | .fields (entry :: rest) =>
    exact (adds_entries s (entry :: rest) w).map fun conditions => by
      simp [placeholdersOf, Expr.all, Expr.placeholders]

/-! ## Walks one after the other -/

/-- The parameters after criteria are walked one after the other, each into a query of its own.
Those of criteria that fail are kept. -/
def Walk.session (s : Scope) (params : List Parameter) : List (Select × Criteria) → List Parameter
  | [] => params
  | (q, c) :: rest => session s (Walk.criteria s c ⟨q, params⟩).2.params rest

/-- Parameters that have been bound, in order and numbered by their places, for some of the
comparisons that have been walked. -/
theorem session_numbered (s : Scope) (walks : List (Select × Criteria)) {leaves : List Leaf}
    {params : List Parameter} (numbered : Numbered s 0 leaves params) :
    ∃ met, (∀ l ∈ met, l ∈ leaves ∨ l ∈ walks.flatMap (·.2.leaves)) ∧
      Numbered s 0 met (Walk.session s params walks) := by
  induction walks generalizing leaves params with
  | nil => exact ⟨leaves, fun l member => .inl member, numbered⟩
  | cons walk rest ih =>
    obtain ⟨q, c⟩ := walk
    -- Criteria that fail have met only the first of their comparisons.
    obtain ⟨met, added, front, params', numberedAfter, _⟩ := adds_criteria s c ⟨q, params⟩
    have all : Numbered s 0 (leaves ++ met) (params ++ added) :=
      numbered.append (by simpa using numberedAfter)
    obtain ⟨more, among, numberedMore⟩ := ih all
    simp only [Walk.session, params']
    refine ⟨more, fun l member => ?_, numberedMore⟩
    rcases among l member with early | late
    · rcases List.mem_append.mp early with before | here
      · exact .inl before
      · exact .inr (by simp [front.subset here])
    · exact .inr (by simp only [List.flatMap_cons, List.mem_append]; exact .inr late)

theorem Numbered.nodup_names {s : Scope} {n : Nat} {leaves : List Leaf} {params : List Parameter}
    (numbered : Numbered s n leaves params) : (params.map (·.name)).Nodup := by
  rw [List.Nodup, List.pairwise_map, List.pairwise_iff_getElem]
  intro i j inI inJ less same
  obtain ⟨l, _, _, binds⟩ := numbered.at_place (List.getElem?_eq_getElem inI)
  obtain ⟨l', _, _, binds'⟩ := numbered.at_place (List.getElem?_eq_getElem inJ)
  have names : parameterName (lastSegment l.field) (n + i) =
      parameterName (lastSegment l'.field) (n + j) := by
    rw [parameterName, ← binds.name, same, binds'.name, parameterName]
  have := parameterName_number names
  omega

/-- After any criteria, walked one after the other and each into any query, whether or not they
compile: every parameter is that of a comparison and is named by its field and its place; no two
have one name; and criteria that compile next mention just the parameters that they add, which are
those of their comparisons that take one, in order. -/
theorem session_parameters (s : Scope) (walks : List (Select × Criteria)) :
    (∀ i p, (Walk.session s [] walks)[i]? = some p →
        ∃ l ∈ walks.flatMap (·.2.leaves), l.isNullTest = false ∧ l.Binds s i p) ∧
      ((Walk.session s [] walks).map (·.name)).Nodup ∧
      ∀ q c expr w, Walk.criteria s c ⟨q, Walk.session s [] walks⟩ = (.ok (some expr), w) →
        ∃ added, w.params = Walk.session s [] walks ++ added ∧
          expr.placeholders = added.map (·.name) ∧
          Numbered s (Walk.session s [] walks).length c.leaves added := by
  have none : Numbered s 0 [] [] := .nil
  obtain ⟨met, among, numbered⟩ := session_numbered s walks none
  refine ⟨fun i p place => ?_, numbered.nodup_names, fun q c expr w walked => ?_⟩
  · obtain ⟨l, member, test, binds⟩ := numbered.at_place place
    exact ⟨l, by simpa using among l member, test, by simpa using binds⟩
  · obtain ⟨met, added, _, params, numbered, all⟩ :=
      adds_criteria s c ⟨q, Walk.session s [] walks⟩
    rw [walked] at params all
    obtain ⟨rfl, placeholders⟩ := all (some expr) rfl
    exact ⟨added, params, placeholders, numbered⟩

/-- A scope over one table of books. -/
def bookScope : Scope :=
  ⟨.empty, .ofColumns "book" [("title", .string), ("pages", .integer)] ["title"], "b"⟩

/-- Books with a percent sign in their title and without pages. -/
def bookCriteria : Criteria :=
  .expression (.composite .and
    [.comparison "title" .contains (.text "%"), .comparison "pages" .eq .null])

/-- The pattern is bound, and the null test takes no parameter. -/
theorem session_parameters_book :
    let condition : Expr := .compound .and
      [.like (.of "b" "title") (.placeholder "title_0"), .isNull false (.of "b" "pages")]
    let added : List Parameter := [⟨"title_0", .text "%\\%%", .string⟩]
    Walk.criteria bookScope bookCriteria ⟨.empty, Walk.session bookScope [] []⟩ =
        (.ok (some condition), ⟨.empty, added⟩) ∧
      condition.placeholders = added.map (·.name) ∧
      Numbered bookScope 0 bookCriteria.leaves added := by
  intro condition added
  have compiles : Walk.criteria bookScope bookCriteria ⟨.empty, Walk.session bookScope [] []⟩ =
      (.ok (some condition), ⟨.empty, added⟩) := by rfl
  obtain ⟨found, same, placeholders, numbered⟩ :=
    (session_parameters bookScope []).2.2 .empty bookCriteria _ _ compiles
  obtain rfl : added = found := same
  exact ⟨compiles, placeholders, numbered⟩

end Relmap
