import Mathlib.Data.List.Forall2

/-!
# Outcomes

What is known of the parts of a computation that has succeeded or failed.
-/

namespace Relmap

theorem bind_eq_ok {ε α β : Type} {x : Except ε α} {f : α → Except ε β} {b : β} :
    x >>= f = .ok b ↔ ∃ a, x = .ok a ∧ f a = .ok b := by
  cases x <;> simp [Bind.bind, Except.bind]

theorem bind_eq_error {ε α β : Type} {x : Except ε α} {f : α → Except ε β} {e : ε} :
    x >>= f = .error e ↔ x = .error e ∨ ∃ a, x = .ok a ∧ f a = .error e := by
  cases x <;> simp [Bind.bind, Except.bind]

theorem pure_eq_ok {ε α : Type} {a b : α} : (pure a : Except ε α) = .ok b ↔ a = b := by
  simp [pure, Except.pure]

theorem map_eq_ok {ε α β : Type} {x : Except ε α} {f : α → β} {b : β} :
    x.map f = .ok b ↔ ∃ a, x = .ok a ∧ f a = b := by
  cases x <;> simp [Except.map]

instance decidableExistsOk {ε α : Type} (x : Except ε α) : Decidable (∃ a, x = .ok a) :=
  match x with
  | .ok a => .isTrue ⟨a, rfl⟩
  | .error _ => .isFalse nofun

theorem mapM_ok {ε α β : Type} {f : α → Except ε β} {xs : List α} {ys : List β}
    (ok : xs.mapM f = .ok ys) : List.Forall₂ (fun x y => f x = .ok y) xs ys := by
  induction xs generalizing ys with
  | nil =>
    cases ok
    exact .nil
  | cons x rest ih =>
    simp only [List.mapM_cons, bind_eq_ok, pure_eq_ok] at ok
    obtain ⟨y, first, later, mapped, rfl⟩ := ok
    exact .cons first (ih mapped)

theorem exists_mapM_ok {ε α β : Type} {f : α → Except ε β} {xs : List α} :
    (∃ ys, xs.mapM f = .ok ys) ↔ ∀ x ∈ xs, ∃ y, f x = .ok y := by
  induction xs with
  | nil => exact iff_of_true ⟨[], rfl⟩ nofun
  | cons x rest ih =>
    rw [List.forall_mem_cons, ← ih]
    simp only [List.mapM_cons, bind_eq_ok, pure_eq_ok]
    constructor
    · rintro ⟨_, y, first, ys, later, -⟩
      exact ⟨⟨y, first⟩, ys, later⟩
    · rintro ⟨⟨y, first⟩, ys, later⟩
      exact ⟨_, y, first, ys, later, rfl⟩

theorem mapM_of_forall₂ {ε α β : Type} {f : α → Except ε β} {xs : List α} {ys : List β}
    (each : List.Forall₂ (fun x y => f x = .ok y) xs ys) : xs.mapM f = .ok ys := by
  induction each with
  | nil => rfl
  | cons first _ ih =>
    rw [List.mapM_cons]
    simp only [first, ih, bind_eq_ok, pure_eq_ok]
    exact ⟨_, rfl, _, rfl, rfl⟩

theorem mapM_self {ε α : Type} {f : α → Except ε α} {xs : List α} (each : ∀ x ∈ xs, f x = .ok x) :
    xs.mapM f = .ok xs :=
  mapM_of_forall₂ (List.forall₂_same.mpr each)

theorem mapM_error {ε α β : Type} {f : α → Except ε β} {xs : List α} {e : ε}
    (failed : xs.mapM f = .error e) : ∃ x ∈ xs, f x = .error e := by
  induction xs with
  | nil => cases failed
  | cons x rest ih =>
    rw [List.mapM_cons, bind_eq_error] at failed
    rcases failed with first | ⟨y, -, failed⟩
    · exact ⟨x, List.mem_cons_self, first⟩
    · rcases bind_eq_error.mp failed with later | ⟨ys, -, failed⟩
      · obtain ⟨x', member, failed⟩ := ih later
        exact ⟨x', List.mem_cons_of_mem _ member, failed⟩
      · cases failed

theorem mapM_some {α β : Type} {f : α → Option β} {xs : List α} {ys : List β}
    (each : List.Forall₂ (fun x y => f x = some y) xs ys) : xs.mapM f = some ys := by
  induction each with
  | nil => rfl
  | cons first later ih => simp [List.mapM_cons, first, ih]

theorem foldlM_keeps {ε α β : Type} {f : β → α → Except ε β} {xs : List α} {holds : β → Prop}
    (step : ∀ x ∈ xs, ∀ b b', holds b → f b x = .ok b' → holds b') {b b' : β} (start : holds b)
    (ok : xs.foldlM f b = .ok b') : holds b' := by
  induction xs generalizing b with
  | nil =>
    cases ok
    exact start
  | cons x rest ih =>
    rw [List.foldlM_cons, bind_eq_ok] at ok
    obtain ⟨next, first, later⟩ := ok
    exact ih (fun y member => step y (List.mem_cons_of_mem _ member))
      (step x List.mem_cons_self b next start first) later

/-- A part of the state that no step looks at can be set before the steps or after them. -/
theorem foldlM_hom {ε α β γ : Type} {f : β → α → Except ε β} {f' : γ → α → Except ε γ} {h : β → γ}
    (step : ∀ b x, f' (h b) x = (f b x).map h) (b : β) (xs : List α) :
    xs.foldlM f' (h b) = (xs.foldlM f b).map h := by
  induction xs generalizing b with
  | nil => rfl
  | cons x rest ih =>
    rw [List.foldlM_cons, List.foldlM_cons, step]
    cases f b x with
    | error e => rfl
    | ok next => exact ih next

/-! ## Parts that correspond -/

section

variable {α β : Type} {holds : α → β → Prop} {xs : List α} {ys : List β}

theorem exists_right_of_forall₂ (each : List.Forall₂ holds xs ys) {x : α} (member : x ∈ xs) :
    ∃ y ∈ ys, holds x y := by
  induction each with
  | nil => cases member
  | cons first _ ih =>
    rcases List.mem_cons.mp member with rfl | later
    · exact ⟨_, List.mem_cons_self, first⟩
    · exact (ih later).imp fun _ => And.imp_left (List.mem_cons_of_mem _)

theorem exists_left_of_forall₂ (each : List.Forall₂ holds xs ys) {y : β} (member : y ∈ ys) :
    ∃ x ∈ xs, holds x y :=
  exists_right_of_forall₂ each.flip member

theorem getElem?_of_forall₂ (each : List.Forall₂ holds xs ys) {i : Nat} {x : α}
    (place : xs[i]? = some x) : ∃ y, ys[i]? = some y ∧ holds x y := by
  induction each generalizing i with
  | nil => simp at place
  | @cons first other _ _ here _ ih =>
    cases i with
    | zero =>
      obtain rfl : first = x := by simpa using place
      exact ⟨other, rfl, here⟩
    | succ i => exact ih place

theorem forall_iff_of_forall₂ {P : α → Prop} {Q : β → Prop} (each : List.Forall₂ holds xs ys)
    (iff : ∀ x y, holds x y → (P x ↔ Q y)) : (∀ x ∈ xs, P x) ↔ ∀ y ∈ ys, Q y := by
  induction each with
  | nil => exact iff_of_true nofun nofun
  | cons first _ ih => rw [List.forall_mem_cons, List.forall_mem_cons, iff _ _ first, ih]

theorem forall₂_and_mem (each : List.Forall₂ holds xs ys) :
    List.Forall₂ (fun x y => holds x y ∧ x ∈ xs ∧ y ∈ ys) xs ys := by
  induction each with
  | nil => exact .nil
  | cons first _ ih =>
    refine .cons ⟨first, List.mem_cons_self, List.mem_cons_self⟩ (ih.imp fun x y later => ?_)
    exact ⟨later.1, List.mem_cons_of_mem _ later.2.1, List.mem_cons_of_mem _ later.2.2⟩

/-- Two lists that correspond to one go in pairs. -/
theorem exists_pairs_of_forall₂ {γ : Type} {holds' : α → γ → Prop} {zs : List γ}
    (each : List.Forall₂ holds xs ys) (each' : List.Forall₂ holds' xs zs) :
    ∃ pairs : List (β × γ), pairs.map Prod.fst = ys ∧ pairs.map Prod.snd = zs ∧
      List.Forall₂ (fun x pair => holds x pair.1 ∧ holds' x pair.2) xs pairs := by
  induction each generalizing zs with
  | nil =>
    cases each'
    exact ⟨[], rfl, rfl, .nil⟩
  | cons first _ ih =>
    obtain - | ⟨first', later'⟩ := each'
    obtain ⟨pairs, rfl, rfl, both⟩ := ih later'
    exact ⟨(_, _) :: pairs, rfl, rfl, .cons ⟨first, first'⟩ both⟩

end

end Relmap
