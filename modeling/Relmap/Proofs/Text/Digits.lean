import Relmap.Text.Digits
import Mathlib.Algebra.GroupWithZero.Nat

/-!
# Numbers read back

What is written as a number in decimal digits is read as that number, whatever follows it.
-/

namespace Relmap.Text

theorem continueNumber_eq {s : List Char} (digits : ∀ c ∈ s, c.isDigit = true) (start : Nat) :
    continueNumber start s = Nat.ofDigitChars 10 s start := by
  induction s generalizing start with
  | nil => rfl
  | cons c rest ih =>
    obtain ⟨first, later⟩ := List.forall_mem_cons.mp digits
    have value : digit? c = some (c.toNat - '0'.toNat) := if_pos first
    rw [Nat.ofDigitChars_cons, ← ih later, continueNumber, List.foldl_cons, value]
    rfl

/-- The text consists of decimal digits and names the number. -/
structure Spells (s : List Char) (n : Nat) : Prop where
  nonempty : s ≠ []
  digits : ∀ c ∈ s, c.isDigit = true
  value : Nat.ofDigitChars 10 s 0 = n

theorem natural?_of_spells {s : List Char} {n : Nat} (spells : Spells s n) :
    natural? s = some n := by
  have nonempty : s.isEmpty = false := by simpa using spells.nonempty
  have digits : s.all Char.isDigit = true := List.all_eq_true.mpr spells.digits
  rw [natural?, nonempty, digits]
  exact congrArg some ((continueNumber_eq spells.digits 0).trans spells.value)

theorem spells_decimal (n : Nat) : Spells (decimal n) n where
  nonempty := Nat.toDigits_ne_nil
  digits _ member := Nat.isDigit_of_mem_toDigits (by decide) (by decide) member
  value := Nat.ofDigitChars_ten_toDigits

theorem spells_padded (width n : Nat) : Spells (padded width n) n where
  nonempty := List.append_ne_nil_of_right_ne_nil _ Nat.toDigits_ne_nil
  digits c member := by
    rcases List.mem_append.mp member with zero | digit
    · rw [List.eq_of_mem_replicate zero]
      rfl
    · exact (spells_decimal n).digits c digit
  value := by
    rw [padded, Nat.ofDigitChars_append, Nat.ofDigitChars_replicate_zero, Nat.mul_zero]
    exact Nat.ofDigitChars_ten_toDigits

theorem length_decimal {width n : Nat} (positive : 0 < width) (fits : n < 10 ^ width) :
    (decimal n).length ≤ width :=
  (Nat.length_toDigits_le_iff (by decide) positive).mpr fits

theorem length_padded {width n : Nat} (positive : 0 < width) (fits : n < 10 ^ width) :
    (padded width n).length = width := by
  rw [padded, List.length_append, List.length_replicate]
  exact Nat.sub_add_cancel (length_decimal positive fits)

theorem length_padded_le {width most n : Nat} (narrow : width ≤ most) (positive : 0 < most)
    (fits : n < 10 ^ most) : (padded width n).length ≤ most := by
  have := length_decimal positive fits
  rw [padded, List.length_append, List.length_replicate]
  omega

/-- A number with zeros in front is read back at its width. -/
theorem takeDigits?_padded {width n : Nat} (positive : 0 < width) (fits : n < 10 ^ width)
    (rest : List Char) : takeDigits? width (padded width n ++ rest) = some (n, rest) := by
  have front : (padded width n ++ rest).take width = padded width n :=
    List.take_left' (length_padded positive fits)
  have back : (padded width n ++ rest).drop width = rest :=
    List.drop_left' (length_padded positive fits)
  rw [takeDigits?, front, back, if_pos (length_padded positive fits),
    natural?_of_spells (spells_padded width n)]
  rfl

/-- A run of digits that fits a width and that no digit follows is found at that width. -/
theorem takeWhile_take {width : Nat} {s rest : List Char} (digits : ∀ c ∈ s, c.isDigit = true)
    (fits : s.length ≤ width) (closed : ∀ c ∈ rest.head?, c.isDigit = false) :
    ((s ++ rest).take width).takeWhile Char.isDigit = s := by
  have none : (rest.take (width - s.length)).takeWhile Char.isDigit = [] := by
    cases rest with
    | nil => rw [List.take_nil, List.takeWhile_nil]
    | cons c rest =>
      cases width - s.length with
      | zero => rfl
      | succ n =>
        have closed : ¬c.isDigit = true := by simpa using closed c rfl
        rw [List.take_succ_cons, List.takeWhile_cons_of_neg closed]
  rw [List.take_append, List.take_of_length_le fits, List.takeWhile_append_of_pos digits, none,
    List.append_nil]

end Relmap.Text
