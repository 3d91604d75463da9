/-!
# Parts of a text

A mark divides a text into parts. Main statements: no part holds the mark, and the parts with the
mark between them are the text.
-/

namespace Relmap.Text

/-- The parts of a text between marks. A text without a mark is one part. -/
def parts (mark : Char) : List Char → List (List Char)
  | [] => [[]]
  | c :: rest =>
    match parts mark rest with
    | part :: others => if c = mark then [] :: part :: others else (c :: part) :: others
    | [] => [[c]]

theorem parts_ne_nil (mark : Char) (s : List Char) : parts mark s ≠ [] := by
  cases s with
  | nil => simp [parts]
  | cons c rest =>
    simp only [parts]
    split
    · split <;> simp
    · simp

theorem mark_notMem_of_mem_parts {mark : Char} {s part : List Char} (h : part ∈ parts mark s) :
    mark ∉ part := by
  induction s generalizing part with
  | nil =>
    obtain rfl : part = [] := by simpa [parts] using h
    simp
  | cons c rest ih =>
    rcases found : parts mark rest with _ | ⟨first, others⟩
    · exact absurd found (parts_ne_nil mark rest)
    · have inRest : ∀ p, p = first ∨ p ∈ others → mark ∉ p := by
        intro p member
        exact ih (by simpa [found] using member)
      simp only [parts, found] at h
      by_cases marked : c = mark
      · simp only [if_pos marked, List.mem_cons] at h
        rcases h with rfl | member
        · simp
        · exact inRest part member
      · simp only [if_neg marked, List.mem_cons] at h
        rcases h with rfl | member
        · simp [Ne.symm marked, inRest first (.inl rfl)]
        · exact inRest part (.inr member)

theorem intercalate_parts (mark : Char) (s : List Char) :
    [mark].intercalate (parts mark s) = s := by
  induction s with
  | nil => rfl
  | cons c rest ih =>
    rcases found : parts mark rest with _ | ⟨first, others⟩
    · exact absurd found (parts_ne_nil mark rest)
    · rw [found] at ih
      simp only [parts, found]
      by_cases marked : c = mark
      · rw [if_pos marked, marked, ← ih]
        simp [List.intercalate]
      · rw [if_neg marked, ← ih]
        cases others <;> simp [List.intercalate]

example : parts '.' ['a', '.', '.', 'b'] = [['a'], [], ['b']] := by decide

end Relmap.Text
