import Relmap.Proofs.Gateway.Counting
import Relmap.Proofs.Sql.Like

/-!
# Patterns of a gateway

The operators that compare with a pattern escape their text, and put it between wildcards. Main
statement, `patterns_match`: what agrees with the pattern are just the texts that contain the text,
start with it or end with it, and a gateway sends the pattern as it is, whatever the type of the
column is that it is compared with.
-/

namespace Relmap

open Sql

/-! ## Comparisons with a pattern -/

/-- A comparison with a pattern compiles on any column, of any type, and binds the pattern as text. -/
theorem compareColumn_pattern {op : Operator} (pattern : op.isPattern = true) (column : Expr)
    (field : String) (n : Nat) (t : String) (type : ColumnType) :
    compareColumn column field n op (.text t) type =
      .ok ⟨.like column (.placeholder (parameterName field n)),
        some ⟨parameterName field n, .text (patternOf op t), .string⟩⟩ := by
  cases op with
  | contains | startsWith | endsWith => rfl
  | _ => cases pattern

/-- Only a text is compared as a pattern. -/
theorem text_of_compareColumn {column : Expr} {field : String} {n : Nat} {op : Operator}
    {value : Value} {type : ColumnType} {c : Compared} (pattern : op.isPattern = true)
    (ok : compareColumn column field n op value type = .ok c) : ∃ t, value = .text t := by
  have byPattern : comparedByPattern column field n op value = .ok c := by
    cases op with
    | contains | startsWith | endsWith => cases value <;> exact ok
    | _ => cases pattern
  unfold comparedByPattern at byPattern
  split at byPattern
  · exact ⟨_, rfl⟩
  · cases byPattern

/-- Wherever a column is stored, the value is compared with some column. -/
theorem Scope.compareColumn_of_compareReached {s : Scope} {n : Nat} {field : String} {op : Operator}
    {value : Value} {c : Compared} (ok : s.compareReached n field op value = .ok c) :
    ∃ column type inner, compareColumn column field n op value type = .ok inner := by
  unfold compareReached at ok
  split at ok
  · cases ok
  · exact ⟨_, _, c, ok⟩
  · obtain ⟨_, _, _, inner, -, compared, -⟩ := compareTranslated_ok ok
    exact ⟨_, _, inner, compared⟩
  · unfold compareInherited at ok
    split at ok
    · exact ⟨_, _, c, ok⟩
    · cases ok

/-- The pattern operators among the comparisons compare with texts. -/
def PatternsAreTexts (leaves : List Leaf) : Prop :=
  ∀ l ∈ leaves, l.op.isPattern = true → ∃ t, l.value = .text t

theorem PatternsAreTexts.append {leaves more : List Leaf} (first : PatternsAreTexts leaves)
    (later : PatternsAreTexts more) : PatternsAreTexts (leaves ++ more) :=
  List.forall_mem_append.mpr ⟨first, later⟩

theorem patternsAreTexts_comparison {s : Scope} (l : Leaf) :
    l.Yields s fun _ _ _ => PatternsAreTexts [l] := by
  intro w w' condition walked
  refine List.forall_mem_singleton.mpr fun pattern => ?_
  by_cases path : isPath l.field = true
  · obtain ⟨p, inner, -, compared, -, -⟩ := comparison_path_ok path walked
    exact text_of_compareColumn pattern compared
  · obtain ⟨c, compared, -, -⟩ := comparison_plain_ok path walked
    obtain ⟨column, type, inner, ok⟩ := Scope.compareColumn_of_compareReached compared
    exact text_of_compareColumn pattern ok

theorem patternsAreTexts_induction :
    LeafInduction (fun leaves _ _ _ => PatternsAreTexts leaves)
      fun leaves _ _ _ => PatternsAreTexts leaves where
  nil _ := nofun
  cons first later := first.append later
  compound _ _ each := each
  not operand := operand

namespace Gateway

variable {g : Gateway} {c : Criteria} {q : Select} {params : List Parameter}

/-- The parameter of a compiled comparison with a pattern, by its place. -/
theorem parameter_of_compile {cond : Condition} (compiled : g.condition c = .ok cond) {i : Nat}
    {l : Leaf} (place : (bound c.leaves)[i]? = some l) (pattern : l.op.isPattern = true) :
    ∃ t, l.value = .text t ∧ cond.params[i]? =
      some ⟨parameterName (lastSegment l.field) i, .text (patternOf l.op t), .string⟩ := by
  obtain ⟨m, w, -, walked, params, -⟩ := compile_ok compiled
  have member : l ∈ c.leaves := (List.mem_filter.mp (List.mem_of_getElem? place)).1
  have texts : PatternsAreTexts c.leaves := by
    rcases patternsAreTexts_induction.criteria (fun l _ => patternsAreTexts_comparison l) walked with
      ⟨-, -, none⟩ | ⟨_, -, each⟩
    · rw [none]
      exact nofun
    · exact each
  obtain ⟨t, isText⟩ := texts l member pattern
  obtain ⟨_, added, -, after, numbered, all⟩ := adds_criteria ⟨g.registry, m, g.aliasName⟩ c .start
  rw [walked] at after all
  obtain ⟨rfl, -⟩ := all cond.expr rfl
  have same : cond.params = added := by simpa [params, Walk.start] using after
  have numberedPlace : ((bound c.leaves).zipIdx Walk.start.params.length)[i]? = some (l, i) := by
    simp [place, Walk.start]
  obtain ⟨⟨name, value, type⟩, isParameter, named, bound, typed⟩ :=
    getElem?_of_forall₂ numbered numberedPlace
  rw [if_pos pattern] at typed
  rw [Leaf.boundValue, isText] at bound
  refine ⟨t, isText, ?_⟩
  rw [same, isParameter]
  simp_all [parameterName]

/-- What a gateway asks for by criteria, as rows or as their number. -/
inductive AsksFor (g : Gateway) (c : Criteria) (asked : BoundQuery) : Prop
  | rows {ordering : Ordering} {limit : Option Nat} {offset : Nat} :
      g.findQuery c ordering limit offset = .ok asked → AsksFor g c asked
  | number : g.countQuery c = .ok asked → AsksFor g c asked

theorem AsksFor.stored (asks : g.AsksFor c (q, params)) :
    ∃ cond, g.condition c = .ok cond ∧ cond.params.mapM Parameter.toStored = .ok params := by
  cases asks with
  | rows found =>
    obtain ⟨_, _, cond, _, -, -, compiled, stored, built⟩ := findQuery_eq_ok.mp found
    cases built
    exact ⟨cond, compiled, stored⟩
  | number counted =>
    obtain ⟨_, _, cond, _, -, -, compiled, stored, built⟩ := countQuery_eq_ok.mp counted
    cases built
    exact ⟨cond, compiled, stored⟩

/-- What agrees with the patterns for a text are the texts that contain it, start with it or end with
it, and what agrees with the escaped text is the text alone. Every column is compared with these
patterns, and a gateway sends them unchanged: the parameter for the i-th of the comparisons that take
one has the pattern as its text if the comparison asks for a pattern. -/
theorem patterns_match (t s : String) :
    (Likes (patternOf .contains t) s ↔ t.toList <:+: s.toList) ∧
    (Likes (patternOf .startsWith t) s ↔ t.toList <+: s.toList) ∧
    (Likes (patternOf .endsWith t) s ↔ t.toList <:+ s.toList) ∧
    (Likes (escapePattern t) s ↔ s = t) ∧
    (∀ (op : Operator) (column : Expr) (field : String) (n : Nat) (type : ColumnType),
      op.isPattern = true → compareColumn column field n op (.text t) type =
        .ok ⟨.like column (.placeholder (parameterName field n)),
          some ⟨parameterName field n, .text (patternOf op t), .string⟩⟩) ∧
    ∀ (g : Gateway) (c : Criteria) (q : Select) (params : List Parameter),
      g.AsksFor c (q, params) → ∀ (i : Nat) (l : Leaf), (bound c.leaves)[i]? = some l →
        l.op.isPattern = true → ∃ text, l.value = .text text ∧
          params[i]? =
            some ⟨parameterName (lastSegment l.field) i, .text (patternOf l.op text), .string⟩ := by
  refine ⟨likes_contains t s, likes_startsWith t s, likes_endsWith t s, likes_escapePattern t s,
    fun op column field n type pattern => compareColumn_pattern pattern column field n t type, ?_⟩
  intro g c q params asks i l place pattern
  obtain ⟨cond, compiled, stored⟩ := asks.stored
  obtain ⟨text, isText, isParameter⟩ := parameter_of_compile compiled place pattern
  obtain ⟨_, isStored, converted⟩ := getElem?_of_forall₂ (mapM_ok stored) isParameter
  obtain ⟨value, same, rfl⟩ := Parameter.toStored_eq_ok.mp converted
  -- A text is stored in a text column as it is, and the pattern is bound for one.
  cases same
  exact ⟨text, isText, isStored⟩

/-- Animals whose number contains an escaped text. -/
theorem patterns_match_fauna :
    ∃ q params, faunaGateway.findQuery
        (.expression (.comparison "id" .contains (.text "4%_\\"))) [] none 0 = .ok (q, params) ∧
      params[0]? = some ⟨"id_0", .text "%4\\%\\_\\\\%", .string⟩ ∧
      Likes "%4\\%\\_\\\\%" "no 4%_\\!" ∧ ¬Likes "%4\\%\\_\\\\%" "no 4%__!" := by
  obtain ⟨contains, -, -, -, -, unchanged⟩ := patterns_match "4%_\\" "no 4%_\\!"
  obtain ⟨⟨q, params⟩, found⟩ : ∃ found, faunaGateway.findQuery
    (.expression (.comparison "id" .contains (.text "4%_\\"))) [] none 0 = .ok found := ⟨_, rfl⟩
  obtain ⟨text, isText, isParameter⟩ := unchanged faunaGateway _ q params (.rows found) 0
    ⟨"id", .contains, .text "4%_\\"⟩ rfl rfl
  obtain rfl := Value.text.inj isText
  refine ⟨q, params, found, isParameter, contains.mpr ⟨"no ".toList, "!".toList, rfl⟩, by decide⟩

end Gateway
end Relmap
