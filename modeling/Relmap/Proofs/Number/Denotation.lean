import Relmap.Number.Integer
import Mathlib.Algebra.Field.Rat
import Mathlib.Algebra.Order.Ring.Rat
import Mathlib.Data.Nat.Cast.Field

/-!
# What the bits of a number denote

The bits of a finite double-precision number are a sign, a significand and a power of two, and denote
their product. Numbers are handled as quotients of naturals, and the integer that is read off the
quotient is the number itself: `integer?_eq_some`.

An integer has one of 64 bits next to it (`IsNearest`), which is the same number inside the range
only.
-/

namespace Relmap.Binary64

/-- The number that the bits denote. Infinities and NaNs denote none. -/
def Denotes (x : Binary64) (q : ℚ) : Prop :=
  x.isFinite = true ∧ (if x.negative then -1 else 1) * x.significand * (2 : ℚ) ^ x.scale = q

/-- The integer of 64 bits next to an integer: the same one, or the end of the range that it lies
beyond. -/
inductive IsNearest : Int → Int64 → Prop
  | same {k : Int} {n : Int64} : n.toInt = k → IsNearest k n
  | above {k : Int} : Int64.maxValue.toInt < k → IsNearest k Int64.maxValue
  | below {k : Int} : k < Int64.minValue.toInt → IsNearest k Int64.minValue

variable {x : Binary64} {k : Int}

/-! ## Integers among the quotients -/

theorem two_zpow (e : Int) :
    (2 : ℚ) ^ e = (Nat.pow 2 e.toNat : ℕ) / (Nat.pow 2 (-e).toNat : ℕ) := by
  rcases Int.le_total 0 e with up | down
  · obtain ⟨i, rfl⟩ := Int.eq_ofNat_of_zero_le up
    simp
  · obtain ⟨i, rfl⟩ := Int.exists_eq_neg_ofNat down
    simp

theorem magnitude_pos (x : Binary64) : 0 < x.magnitude.2 := Nat.two_pow_pos _

theorem magnitude_eq (x : Binary64) :
    x.significand * (2 : ℚ) ^ x.scale = x.magnitude.1 / x.magnitude.2 := by
  rw [two_zpow, ← mul_div_assoc, ← Nat.cast_mul]
  rfl

theorem cast_signed (negative : Bool) (m : Nat) :
    (signed negative m : ℚ) = (if negative then -1 else 1) * m := by
  cases negative <;> simp [signed]

/-- Without fractions: the numerator is the integer times the denominator. -/
theorem denotes_iff :
    x.Denotes k ↔ x.isFinite = true ∧
      signed x.negative x.magnitude.1 = k * (x.magnitude.2 : Int) := by
  have positive : (x.magnitude.2 : ℚ) ≠ 0 := Nat.cast_ne_zero.mpr x.magnitude_pos.ne'
  rw [Denotes, mul_assoc, magnitude_eq, ← mul_div_assoc, ← cast_signed, div_eq_iff positive]
  norm_cast

theorem signed_eq_mul_iff {negative : Bool} {num den : Nat} (positive : 0 < den) :
    signed negative num = k * (den : Int) ↔
      num % den = 0 ∧ signed negative (num / den) = k := by
  have cancel {q : Int} : q * den = k * den ↔ q = k :=
    Int.mul_eq_mul_right_iff (Int.natCast_pos.mpr positive).ne'
  constructor
  · intro equal
    have divides : den ∣ num := by
      rw [← Int.natCast_dvd_natCast, ← (show (signed negative num).natAbs = num from ?_)]
      · exact Int.dvd_natAbs.mpr ⟨k, equal.trans (Int.mul_comm _ _)⟩
      · cases negative <;> simp [signed]
    obtain ⟨q, rfl⟩ := divides
    rw [Nat.mul_mod_right, Nat.mul_div_cancel_left q positive]
    refine ⟨rfl, cancel.mp (equal ▸ ?_)⟩
    cases negative <;> simp [signed, Int.mul_comm]
  · rintro ⟨whole, rfl⟩
    obtain ⟨q, rfl⟩ := Nat.dvd_of_mod_eq_zero whole
    rw [Nat.mul_div_cancel_left q positive]
    cases negative <;> simp [signed, Int.mul_comm]

/-- The integer that is read off a number is the number. -/
theorem integer?_eq_some : x.integer? = some k ↔ x.Denotes k := by
  rw [denotes_iff, signed_eq_mul_iff x.magnitude_pos]
  show (if (x.isFinite && x.magnitude.1 % x.magnitude.2 == 0) = true then
    some (signed x.negative (x.magnitude.1 / x.magnitude.2)) else none) = some k ↔ _
  split
  · rename_i whole
    rw [Bool.and_eq_true, beq_iff_eq] at whole
    simp [whole]
  · rename_i refused
    rw [Bool.and_eq_true, beq_iff_eq] at refused
    simp only [reduceCtorEq, false_iff]
    rintro ⟨finite, whole, -⟩
    exact refused ⟨finite, whole⟩

theorem Denotes.unique {q q' : ℚ} (here : x.Denotes q) (there : x.Denotes q') : q = q' :=
  here.2.symm.trans there.2

/-! ## Integers of 64 bits -/

theorem isNearest_iff {n : Int64} : IsNearest k n ↔ clampInt64 k = n := by
  have ordered := Int64.minValue.toInt_le
  rw [clampInt64, int64Bounds]
  constructor
  · rintro (rfl | above | below)
    · rw [min_eq_right n.toInt_le, max_eq_right n.minValue_le_toInt, Int64.ofInt_toInt]
    · rw [min_eq_left above.le, max_eq_right ordered, Int64.ofInt_toInt]
    · rw [min_eq_right (below.le.trans ordered), max_eq_left below.le, Int64.ofInt_toInt]
  · rintro rfl
    rcases lt_or_ge k Int64.minValue.toInt with below | least
    · rw [max_eq_left ((min_le_right _ _).trans below.le), Int64.ofInt_toInt]
      exact .below below
    rcases lt_or_ge Int64.maxValue.toInt k with above | greatest
    · rw [min_eq_left above.le, max_eq_right ordered, Int64.ofInt_toInt]
      exact .above above
    · rw [min_eq_right greatest, max_eq_right least]
      exact .same (Int64.toInt_ofInt_of_le least (Int.lt_add_one_of_le greatest))

/-- Nearest and the same inside the range only. -/
theorem IsNearest.toInt_eq_iff {n : Int64} (nearest : IsNearest k n) :
    n.toInt = k ↔ Int64.minValue.toInt ≤ k ∧ k ≤ Int64.maxValue.toInt := by
  constructor
  · rintro rfl
    exact ⟨n.minValue_le_toInt, n.toInt_le⟩
  · rintro ⟨least, greatest⟩
    rcases nearest with same | beyond | beyond
    · exact same
    · exact absurd greatest beyond.not_ge
    · exact absurd least beyond.not_ge

end Relmap.Binary64
