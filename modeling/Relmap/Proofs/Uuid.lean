import Relmap.Uuid

/-!
# Identifiers read back

An identifier is read from the text that is written for it.
-/

namespace Relmap.Uuid

theorem digit?_hexDigit : ∀ d : Fin 16, digit? (Text.hexDigit d.val) = some d := by decide

theorem hexDigit_ne_hyphen : ∀ d : Fin 16, (Text.hexDigit d.val != '-') = true := by decide

theorem mapM_digit? (digits : List (Fin 16)) :
    (digits.map fun d => Text.hexDigit d.val).mapM digit? = some digits := by
  induction digits with
  | nil => rfl
  | cons d rest ih => simp [digit?_hexDigit, ih]

theorem ofDigits?_digitChars (u : Uuid) : ofDigits? u.digitChars = some u := by
  rw [ofDigits?, digitChars, mapM_digit?]
  exact dif_pos u.length_eq

theorem length_hyphenate {s : List Char} (length : s.length = 32) :
    (hyphenate s).length = 36 := by
  simp [hyphenate, length]

/-- A group and what follows it. -/
theorem take_append_drop_group (s : List Char) (start size : Nat) :
    (s.drop start).take size ++ s.drop (start + size) = s.drop start := by
  rw [← List.drop_drop, List.take_append_drop]

/-- The groups are what is left without the hyphens. -/
theorem filter_hyphenate {s : List Char} (digits : ∀ c ∈ s, (c != '-') = true) :
    (hyphenate s).filter (· != '-') = s := by
  have kept {group : List Char} (sub : group.Sublist s) : group.filter (· != '-') = group :=
    List.filter_eq_self.mpr fun c member => digits c (sub.subset member)
  have taken (start size : Nat) : ((s.drop start).take size).Sublist s :=
    (List.take_sublist size _).trans (List.drop_sublist start s)
  have hyphen (rest : List Char) : ('-' :: rest).filter (· != '-') = rest.filter (· != '-') := rfl
  simp only [hyphenate, List.filter_append, hyphen, kept (List.take_sublist 8 s), kept (taken _ _),
    kept (List.drop_sublist 20 s)]
  rw [take_append_drop_group s 16 4, take_append_drop_group s 12 4, take_append_drop_group s 8 4,
    List.take_append_drop]

theorem ofText?_text (u : Uuid) : ofText? u.text = some u := by
  have length : u.digitChars.length = 32 := by rw [digitChars, List.length_map, u.length_eq]
  have digits : ∀ c ∈ u.digitChars, (c != '-') = true := by
    intro c member
    obtain ⟨d, -, rfl⟩ := List.mem_map.mp member
    exact hexDigit_ne_hyphen d
  rw [ofText?, text, String.toList_ofList, ofChars?, length_hyphenate length]
  simp [ofGroups?, filter_hyphenate digits, length, ofDigits?_digitChars]

end Relmap.Uuid
