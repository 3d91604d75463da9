import Relmap.Proofs.Keyed
import Relmap.Proofs.Compile.Walk

/-!
# Extended criteria

Values and expressions are added to criteria one call after the other, under keys that keep them
apart. Main statement, `compile_extendAll`: the condition is the conjunction of the operands that
the criteria had and of one operand for each call. Only an expression can get lost: it is kept under
the key "0", and a call under that key takes its place.
-/

namespace Relmap

open Sql

namespace Criteria

/-- Adds a value for a field or an expression under a key. -/
def extend (c : Criteria) (key : String) : Criterion → Criteria
  | .value v => c.and key v
  | .expression e => c.andExpression key e

/-- Adds values and expressions one after the other. -/
def extendAll (c : Criteria) (calls : Keyed Criterion) : Criteria :=
  calls.foldl (fun c call => c.extend call.1 call.2) c

/-- The keys of a map. An expression has none. -/
def keys : Criteria → List String
  | .fields entries => entries.names
  | .expression _ => []

/-- The condition that has the conditions of the entries as its operands. An expression is its own
condition, and a map without entries has none. -/
def conjunction : Criteria → List Expr → Option Expr
  | _, [] => none
  | .expression _, operand :: _ => some operand
  | .fields _, operands => some (.all operands)

theorem extendAll_cons (c : Criteria) (call : String × Criterion) (rest : Keyed Criterion) :
    c.extendAll (call :: rest) = .fields (c.entries.writeAll (call :: rest)) := by
  induction rest generalizing c call with
  | nil => obtain ⟨key, _ | _⟩ := call <;> rfl
  | cons next rest ih =>
    -- The first call makes a map of the criteria, and every other one writes to it.
    show (c.extend call.1 call.2).extendAll (next :: rest) = _
    rw [ih]
    obtain ⟨key, _ | _⟩ := call <;> rfl

theorem entries_extendAll (c : Criteria) (calls : Keyed Criterion) :
    (c.extendAll calls).entries = c.entries.writeAll calls := by
  cases calls with
  | nil => rfl
  | cons call rest => rw [extendAll_cons, entries]

end Criteria

/-! ## Entries that are compiled in turn -/

namespace Walk

/-- A walk compiles entries from left to right, each to one operand. -/
inductive InTurn (s : Scope) : Walk → Keyed Criterion → List Expr → Walk → Prop
  | nil (w : Walk) : InTurn s w [] [] w
  | cons {w w' w'' : Walk} {key : String} {c : Criterion} {rest : Keyed Criterion} {operand : Expr}
      {operands : List Expr} : w.criterion s key c = (.ok operand, w') →
        InTurn s w' rest operands w'' → InTurn s w ((key, c) :: rest) (operand :: operands) w''

variable {s : Scope} {w w' : Walk} {fields more : Keyed Criterion} {operands : List Expr}

theorem entries_eq_ok :
    entries s fields w = (.ok operands, w') ↔ InTurn s w fields operands w' := by
  constructor
  · intro walked
    induction fields generalizing w operands with
    | nil =>
      cases walked
      exact .nil _
    | cons entry rest ih =>
      rw [entries] at walked
      obtain ⟨operand, between, others, first, later, rfl⟩ := Walked.cons_eq_ok walked
      exact .cons first (ih later)
  · intro inTurn
    induction inTurn with
    | nil => rfl
    | cons first _ ih =>
      simp only [entries, first, ih]
      rfl

theorem InTurn.length_eq (inTurn : InTurn s w fields operands w') :
    operands.length = fields.length := by
  induction inTurn with
  | nil => rfl
  | cons _ _ ih => rw [List.length_cons, List.length_cons, ih]

theorem inTurn_append :
    InTurn s w (fields ++ more) operands w' ↔
      ∃ first between later, InTurn s w fields first between ∧ InTurn s between more later w' ∧
        operands = first ++ later := by
  constructor
  · intro inTurn
    induction fields generalizing w operands with
    | nil => exact ⟨[], w, operands, .nil w, inTurn, rfl⟩
    | cons entry rest ih =>
      cases inTurn with
      | cons compiled others =>
        obtain ⟨first, between, later, here, after, rfl⟩ := ih others
        exact ⟨_ :: first, between, later, .cons compiled here, after, rfl⟩
  · rintro ⟨first, between, later, here, after, rfl⟩
    induction here with
    | nil => exact after
    | cons compiled _ ih => exact .cons compiled (ih after)

/-- Criteria compile to the conjunction of what their entries compile to in turn. -/
theorem criteria_eq_ok {c : Criteria} {condition : Option Expr} :
    criteria s c w = (.ok condition, w') ↔
      ∃ operands, InTurn s w c.entries operands w' ∧ condition = c.conjunction operands := by
  match c with
  | .expression e =>
    constructor
    · intro walked
      obtain ⟨operand, compiled, rfl⟩ := Walked.map_eq_ok walked
      exact ⟨[operand], .cons compiled (.nil w'), rfl⟩
    · rintro ⟨_, _ | ⟨compiled, _ | _⟩, rfl⟩
      have walked : expression s e w = (.ok _, w') := compiled
      rw [criteria, walked]
      rfl
  | .fields [] =>
    constructor
    · intro walked
      cases walked
      exact ⟨[], .nil w, rfl⟩
    · rintro ⟨_, _ | _, rfl⟩
      rfl
  | .fields (entry :: rest) =>
    constructor
    · intro walked
      obtain ⟨operands, compiled, rfl⟩ := Walked.map_eq_ok walked
      obtain ⟨operand, others, rfl⟩ := List.exists_cons_of_ne_nil (entries_ne_nil compiled)
      exact ⟨_, entries_eq_ok.mp compiled, rfl⟩
    · rintro ⟨operands, inTurn, rfl⟩
      have compiled := entries_eq_ok.mpr inTurn
      obtain ⟨operand, others, rfl⟩ := List.exists_cons_of_ne_nil (entries_ne_nil compiled)
      have walked : entries s (entry :: rest) w = (.ok (operand :: others), w') := compiled
      rw [criteria, walked]
      · rfl
      · simp

end Walk

/-! ## Conditions of extended criteria -/

namespace Criteria

variable {c : Criteria} {calls : Keyed Criterion}

theorem entries_extendAll_of_apart (distinct : calls.names.Nodup)
    (apart : ∀ key ∈ calls.names, key ∉ c.entries.names) :
    (c.extendAll calls).entries = c.entries ++ calls := by
  rw [entries_extendAll, Keyed.writeAll_of_absent distinct apart]

/-- A call under the key of an expression replaces it. -/
theorem extendAll_expression {e : Expression} {x : Criterion} (distinct : calls.names.Nodup)
    (called : calls.get? "0" = some x) :
    extendAll (.expression e) calls = .fields (("0", x) :: calls.erase "0") := by
  cases calls with
  | nil => cases called
  | cons call rest =>
    rw [extendAll_cons, entries, Keyed.writeAll_cons distinct fun _ _ => List.not_mem_nil, called]
    rfl

/-- Criteria that are extended are a map, so that their conditions are combined even if there is
only one. -/
theorem conjunction_extendAll {operands added : List Expr} (each : added.length = calls.length) :
    (c.extendAll calls).conjunction (operands ++ added) =
      if calls.isEmpty then c.conjunction operands else some (.all (operands ++ added)) := by
  cases calls with
  | nil =>
    obtain rfl := List.length_eq_zero_iff.mp each
    rw [List.append_nil]
    rfl
  | cons call rest =>
    obtain ⟨first, others, rfl⟩ := List.exists_cons_of_length_eq_add_one each
    rw [extendAll_cons]
    cases operands <;> rfl

end Criteria

/-- The whole condition combines the operands that the starting one has with one operand for each
call, compiled in turn, in this order. -/
def Scope.Conjoins (s : Scope) (c : Criteria) (calls : Keyed Criterion) (start whole : Condition) :
    Prop :=
  ∃ operands added w w', Walk.InTurn s .start c.entries operands w ∧
    Walk.InTurn s w calls added w' ∧
    start = ⟨c.conjunction operands, w.params, w.query.joins⟩ ∧
    whole = ⟨if calls.isEmpty then start.expr else some (.all (operands ++ added)), w'.params,
      w'.query.joins⟩

variable {r : Registry} {table aliasName : String} {c : Criteria} {calls : Keyed Criterion}

theorem compile_eq_ok {condition : Condition} :
    compile r table aliasName c = .ok condition ↔
      ∃ s operands w, r.scope table aliasName = .ok s ∧
        Walk.InTurn s .start c.entries operands w ∧
        condition = ⟨c.conjunction operands, w.params, w.query.joins⟩ := by
  simp only [compile, bind_eq_ok]
  constructor
  · rintro ⟨s, isScope, yields⟩
    rcases walked : Walk.criteria s c .start with ⟨_ | condition, w⟩
    · rw [walked] at yields
      cases yields
    · rw [walked] at yields
      cases yields
      obtain ⟨operands, inTurn, rfl⟩ := Walk.criteria_eq_ok.mp walked
      exact ⟨s, operands, w, isScope, inTurn, rfl⟩
  · rintro ⟨s, operands, w, isScope, inTurn, rfl⟩
    refine ⟨s, isScope, ?_⟩
    rw [Walk.criteria_eq_ok.mpr ⟨operands, inTurn, rfl⟩]
    rfl

theorem compile_extendAll_of_apart {whole : Condition} (distinct : calls.names.Nodup)
    (apart : ∀ key ∈ calls.names, key ∉ c.entries.names) :
    compile r table aliasName (c.extendAll calls) = .ok whole ↔
      ∃ s start, r.scope table aliasName = .ok s ∧ compile r table aliasName c = .ok start ∧
        s.Conjoins c calls start whole := by
  rw [compile_eq_ok, Criteria.entries_extendAll_of_apart distinct apart]
  constructor
  · rintro ⟨s, _, w', isScope, inTurn, rfl⟩
    obtain ⟨operands, w, added, first, later, rfl⟩ := Walk.inTurn_append.mp inTurn
    refine ⟨s, _, isScope, compile_eq_ok.mpr ⟨s, operands, w, isScope, first, rfl⟩, operands, added,
      w, w', first, later, rfl, ?_⟩
    rw [Criteria.conjunction_extendAll later.length_eq]
  · rintro ⟨s, _, isScope, -, operands, added, w, w', first, later, rfl, rfl⟩
    refine ⟨s, operands ++ added, w', isScope,
      Walk.inTurn_append.mpr ⟨operands, w, added, first, later, rfl⟩, ?_⟩
    rw [Criteria.conjunction_extendAll later.length_eq]

/-- Calls under keys of their own add one operand each to the operands of the criteria, unless the
criteria are an expression and a call is made under the key "0". Then the call takes the place of
the expression. -/
theorem compile_extendAll (distinct : calls.names.Nodup)
    (fresh : ∀ key ∈ calls.names, key ∉ c.keys) :
    ((∀ e, c = .expression e → "0" ∉ calls.names) →
      (c.extendAll calls).entries = c.entries ++ calls ∧
      ∀ r table aliasName whole, compile r table aliasName (c.extendAll calls) = .ok whole ↔
        ∃ s start, r.scope table aliasName = .ok s ∧ compile r table aliasName c = .ok start ∧
          s.Conjoins c calls start whole) ∧
    ∀ e x, c = .expression e → calls.get? "0" = some x →
      c.extendAll calls = .fields (("0", x) :: calls.erase "0") := by
  constructor
  · intro unused
    have apart : ∀ key ∈ calls.names, key ∉ c.entries.names := by
      intro key called
      cases c with
      | fields entries => exact fresh key called
      | expression e =>
        intro here
        obtain rfl : key = "0" := List.mem_singleton.mp here
        exact unused e rfl called
    exact ⟨Criteria.entries_extendAll_of_apart distinct apart,
      fun _ _ _ _ => compile_extendAll_of_apart distinct apart⟩
  · rintro e x rfl called
    exact Criteria.extendAll_expression distinct called

/-- Books with their pages. -/
def shelf : Registry :=
  ⟨[Metadata.ofColumns "book" [("id", .integer), ("pages", .integer)] ["id"]], by decide⟩

/-- Books of more than three pages. -/
def longBooks : Criteria := .expression (.comparison "pages" .gt (.int 3))

/-- Fewer pages than nine. -/
def fewPages : Criterion := .expression (.comparison "pages" .lt (.int 9))

/-- A certain book, if it has few pages. -/
def shortBook : Keyed Criterion := [("id", .value (.int 7)), ("1", fewPages)]

theorem compile_extendAll_shelf :
    shortBook.names.Nodup ∧ (∀ key ∈ shortBook.names, key ∉ longBooks.keys) ∧
      ∃ (s : Scope) (start whole : Condition),
        compile shelf "book" "book" longBooks = .ok start ∧
        compile shelf "book" "book" (longBooks.extendAll shortBook) = .ok whole ∧
        s.Conjoins longBooks shortBook start whole := by
  have distinct : shortBook.names.Nodup := by decide
  have fresh : ∀ key ∈ shortBook.names, key ∉ longBooks.keys := fun _ _ => List.not_mem_nil
  obtain ⟨kept, -⟩ := compile_extendAll distinct fresh
  obtain ⟨-, conjoined⟩ := kept fun _ _ => by decide
  obtain ⟨whole, accepted⟩ :
      ∃ whole, compile shelf "book" "book" (longBooks.extendAll shortBook) = .ok whole := ⟨_, rfl⟩
  obtain ⟨s, start, -, started, conjoins⟩ := (conjoined shelf "book" "book" whole).mp accepted
  exact ⟨distinct, fresh, s, start, whole, started, accepted, conjoins⟩

/-- The upper bound on the pages takes the place of the lower one. -/
theorem not_conjoins_shelf :
    (∀ key ∈ Keyed.names [("0", fewPages)], key ∉ longBooks.keys) ∧
      ∃ s whole, shelf.scope "book" "book" = .ok s ∧
        compile shelf "book" "book" (longBooks.extendAll [("0", fewPages)]) = .ok whole ∧
        ∀ start, ¬s.Conjoins longBooks [("0", fewPages)] start whole := by
  refine ⟨fun _ _ => List.not_mem_nil, _, _, rfl, rfl, ?_⟩
  rintro _ ⟨operands, added, _, _, first, later, rfl, whole⟩
  have before : operands.length = 1 := first.length_eq
  have one : added.length = 1 := later.length_eq
  have same : some (Expr.all [_]) = some (.all (operands ++ added)) :=
    congrArg Condition.expr whole
  have counts : 1 = (operands ++ added).length :=
    congrArg List.length (Expr.compound.inj (Option.some.inj same)).2
  rw [List.length_append, before, one] at counts
  cases counts

end Relmap
