/-!
# Binary floating-point numbers

A double-precision number is kept as its 64 bits, and every operation on it is exact arithmetic on
the number that the bits denote, followed by at most one rounding to nearest, ties to even.

* `Binary64.integer?` is the integer that a number denotes, if it denotes one.
* `Binary64.ofRatio` is the one rounding: the number nearest to a quotient of naturals.
-/

namespace Relmap

/-- A double-precision number, by its bits. -/
structure Binary64 where
  bits : UInt64
deriving DecidableEq, Repr

namespace Binary64

/-- The sign bit. -/
def negative (x : Binary64) : Bool := x.bits.toNat / Nat.pow 2 63 == 1

/-- The eleven exponent bits. -/
def exponentField (x : Binary64) : Nat := x.bits.toNat / Nat.pow 2 52 % Nat.pow 2 11

/-- The fifty-two fraction bits. -/
def fraction (x : Binary64) : Nat := x.bits.toNat % Nat.pow 2 52

/-- Neither infinite nor a NaN. -/
def isFinite (x : Binary64) : Bool := x.exponentField != 2047

def isNaN (x : Binary64) : Bool := x.exponentField == 2047 && x.fraction != 0

/-- The significand of a finite number, whose magnitude is `significand * 2 ^ scale`. -/
def significand (x : Binary64) : Nat :=
  if x.exponentField = 0 then x.fraction else Nat.pow 2 52 + x.fraction

/-- The exponent of two that goes with the significand. -/
def scale (x : Binary64) : Int :=
  if x.exponentField = 0 then -1074 else (x.exponentField : Int) - 1075

/-- The magnitude of a finite number as a quotient of naturals. -/
def magnitude (x : Binary64) : Nat × Nat :=
  (x.significand * Nat.pow 2 x.scale.toNat, Nat.pow 2 (-x.scale).toNat)

/-- A magnitude with a sign. -/
def signed (negative : Bool) (n : Nat) : Int := if negative then -(n : Int) else n

/-- The integer that a finite number denotes, if it has no fractional part. -/
def integer? (x : Binary64) : Option Int :=
  let (num, den) := x.magnitude
  if x.isFinite && num % den == 0 then some (signed x.negative (num / den)) else none

/-- The least and the greatest 64-bit signed integers. -/
def int64Bounds : Int × Int := (Int64.minValue.toInt, Int64.maxValue.toInt)

/-- The 64-bit integer nearest to an integer. -/
def clampInt64 (n : Int) : Int64 :=
  Int64.ofInt (max int64Bounds.1 (min int64Bounds.2 n))

/-- The bits of a magnitude with its sign bit. -/
def withSign (negative : Bool) (bits : Nat) : Binary64 :=
  ⟨UInt64.ofNat (if negative then Nat.pow 2 63 + bits else bits)⟩

/-- The bits of infinity. -/
def infinityBits : Nat := 2047 * Nat.pow 2 52

/-- A quotient rounded to the nearest natural, ties to even. -/
def divideToEven (num den : Nat) : Nat :=
  let q := num / den
  let r := num % den
  if 2 * r < den then q
  else if den < 2 * r then q + 1
  else if q % 2 = 0 then q else q + 1

/-- The quotient `num / (den * 2 ^ e)` as a quotient of naturals. -/
def scaled (num den : Nat) (e : Int) : Nat × Nat :=
  (num * Nat.pow 2 (-e).toNat, den * Nat.pow 2 e.toNat)

/-- The exponent of two at which a positive quotient has a significand of fifty-three bits, held
above the least exponent of the format. -/
def exponentFor (num den : Nat) : Int :=
  let guess : Int := (num.log2 : Int) - den.log2 - 52
  let (n, d) := scaled num den guess
  max (-1074) (if n < d * Nat.pow 2 52 then guess - 1 else guess)

/-- The number nearest to a quotient. A significand that rounds up to the next power of two carries
into the exponent, and a magnitude beyond the format is infinite. -/
def ofRatio (negative : Bool) (num den : Nat) : Binary64 :=
  if num = 0 then withSign negative 0
  else
    let e := exponentFor num den
    let (n, d) := scaled num den e
    withSign negative (min infinityBits ((e + 1074).toNat * Nat.pow 2 52 + divideToEven n d))

/-- The number nearest to an integer. -/
def ofInt (n : Int) : Binary64 := ofRatio (n < 0) n.natAbs 1

/-- The number nearest to `digits * 10 ^ exponent`. Exponents far outside the format are settled
by the number of digits, without the power. -/
def ofDecimal (negative : Bool) (digits : Nat) (exponent : Int) : Binary64 :=
  let lead := exponent + (Nat.toDigits 10 digits).length
  if digits = 0 || lead < -400 then withSign negative 0
  else if 400 < lead then withSign negative infinityBits
  else ofRatio negative (digits * Nat.pow 10 exponent.toNat) (Nat.pow 10 (-exponent).toNat)

/-- The rounded product of two finite magnitudes. -/
def mul (x y : Binary64) : Binary64 :=
  let (a, b) := x.magnitude
  let (c, d) := y.magnitude
  ofRatio (x.negative != y.negative) (a * c) (b * d)

/-- The rounded quotient of two finite magnitudes, the second of which is not zero. -/
def div (x y : Binary64) : Binary64 :=
  let (a, b) := x.magnitude
  let (c, d) := y.magnitude
  ofRatio (x.negative != y.negative) (a * d) (b * c)

/-- The number with its sign turned. -/
def neg (x : Binary64) : Binary64 := ⟨x.bits ^^^ 0x8000000000000000⟩

example : ofInt 9007199254740993 = ⟨0x4340000000000000⟩ := by decide +kernel

example : (⟨0x43e0000000000000⟩ : Binary64).integer? = some 9223372036854775808 := by
  decide +kernel

example : ofDecimal false 24703282292062328 (-340) = ⟨1⟩ := by decide +kernel

end Binary64
end Relmap
