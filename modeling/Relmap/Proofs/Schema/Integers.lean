import Relmap.Proofs.Number.Denotation
import Relmap.Proofs.Outcome
import Relmap.Schema.Conversion

/-!
# Reals in columns of integers

A column of integers takes a real just if it denotes an integer, of whatever size. Main statement,
`integer_of_real`: it takes the integer of 64 bits next to it, which is the same number inside the
range only. At 2^63 the number is changed without an error, while its text is refused
(`not_denotes_of_real`).
-/

namespace Relmap.ColumnType

open Binary64

/-- The types that hold integers. -/
def isInteger : ColumnType → Bool
  | .smallInt | .integer | .bigInt => true
  | _ => false

variable {type : ColumnType}

/-- An integer is stored as it is. -/
theorem toStored_int (integer : type.isInteger = true) (n : Int64) :
    type.toStored (.int n) = .ok (.int n) := by
  cases type <;> first | rfl | cases integer

theorem toStored_real (isInteger : type.isInteger = true) (x : Binary64) :
    type.toStored (.real x) = .int <$> type.integerOf (.real x) := by
  cases type <;> first | rfl | cases isInteger

theorem toApplication_real (isInteger : type.isInteger = true) (x : Binary64) :
    type.toApplication (.real x) = .int <$> type.integerOf (.real x) := by
  cases type <;> first | rfl | cases isInteger

theorem integerOf_real {x : Binary64} {n : Int64} :
    type.integerOf (.real x) = .ok n ↔ ∃ k : Int, x.Denotes k ∧ IsNearest k n := by
  simp only [integerOf, ← integer?_eq_some, isNearest_iff]
  cases x.integer? with
  | none => simp [refuse]
  | some k => simp

/-- A column of integers takes a real in both directions if it denotes an integer, as the nearest one
of 64 bits. The number is kept just if it is inside the range. -/
theorem integer_of_real (isInteger : type.isInteger = true) (x : Binary64) :
    type.toApplication (.real x) = type.toStored (.real x) ∧
    (∀ v, type.toStored (.real x) = .ok v ↔
      ∃ (k : Int) (n : Int64), x.Denotes k ∧ IsNearest k n ∧ v = .int n) ∧
    ∀ (k : Int) (n : Int64), x.Denotes k → type.toStored (.real x) = .ok (.int n) →
      (x.Denotes n.toInt ↔ Int64.minValue.toInt ≤ k ∧ k ≤ Int64.maxValue.toInt) := by
  have taken (v : Value) : type.toStored (.real x) = .ok v ↔
      ∃ (k : Int) (n : Int64), x.Denotes k ∧ IsNearest k n ∧ v = .int n := by
    rw [toStored_real isInteger]
    refine map_eq_ok.trans ?_
    simp only [integerOf_real]
    constructor
    · rintro ⟨n, ⟨k, denotes, nearest⟩, rfl⟩
      exact ⟨k, n, denotes, nearest, rfl⟩
    · rintro ⟨k, n, denotes, nearest, rfl⟩
      exact ⟨n, ⟨k, denotes, nearest⟩, rfl⟩
  refine ⟨?_, taken, ?_⟩
  · rw [toApplication_real isInteger, toStored_real isInteger]
  · intro k n denotes stored
    obtain ⟨k', n', denotes', nearest, same⟩ := (taken _).mp stored
    obtain rfl := Value.int.inj same
    obtain rfl : k' = k := Rat.intCast_inj.mp (denotes'.unique denotes)
    rw [← nearest.toInt_eq_iff]
    constructor
    · intro kept
      exact Rat.intCast_inj.mp (kept.unique denotes)
    · rintro rfl
      exact denotes

/-- The least integer of 64 bits is kept. -/
theorem integer_of_real_least :
    bigInt.isInteger = true ∧ (⟨0xc3e0000000000000⟩ : Binary64).Denotes Int64.minValue.toInt ∧
      bigInt.toStored (.real ⟨0xc3e0000000000000⟩) = .ok (.int Int64.minValue) := by
  have denotes : (⟨0xc3e0000000000000⟩ : Binary64).Denotes Int64.minValue.toInt :=
    integer?_eq_some.mp (by decide +kernel)
  have isInteger : bigInt.isInteger = true := rfl
  obtain ⟨-, taken, -⟩ := integer_of_real isInteger ⟨0xc3e0000000000000⟩
  exact ⟨isInteger, denotes, (taken _).mpr ⟨_, _, denotes, .same rfl, rfl⟩⟩

/-- The real 2^63 is taken as the greatest integer of 64 bits, which is another number. The text of
the same number is refused. -/
theorem not_denotes_of_real :
    (⟨0x43e0000000000000⟩ : Binary64).Denotes (Int64.maxValue.toInt + 1 : Int) ∧
      integer.toStored (.real ⟨0x43e0000000000000⟩) = .ok (.int Int64.maxValue) ∧
      integer.toApplication (.real ⟨0x43e0000000000000⟩) = .ok (.int Int64.maxValue) ∧
      ¬(⟨0x43e0000000000000⟩ : Binary64).Denotes Int64.maxValue.toInt ∧
      integer.toStored (.text "9223372036854775808") =
        integer.refuse (.text "9223372036854775808") := by
  have denotes : (⟨0x43e0000000000000⟩ : Binary64).Denotes (Int64.maxValue.toInt + 1 : Int) :=
    integer?_eq_some.mp (by decide +kernel)
  have taken : (integer.integerOf (.real ⟨0x43e0000000000000⟩)) = .ok Int64.maxValue :=
    integerOf_real.mpr ⟨_, denotes, .above (Int.lt_add_one_of_le le_rfl)⟩
  refine ⟨denotes, ?_, ?_, ?_, rfl⟩
  · rw [toStored_real rfl, taken]
    rfl
  · rw [toApplication_real rfl, taken]
    rfl
  · intro kept
    exact absurd (Rat.intCast_inj.mp (kept.unique denotes)) (by decide)

end Relmap.ColumnType
