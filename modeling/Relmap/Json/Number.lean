import Relmap.Json.Basic

/-!
# Numbers in structured data

A number without a point and an exponent is an integer if it fits 64 bits, signed or unsigned.
Every other number is read in two roundings: the leading digits that fit a 64-bit word become a
floating-point number, which is then multiplied or divided by a power of ten. So a long number may
differ from the nearest one in its last bit. A number beyond the greatest finite one is refused.
-/

namespace Relmap.Json

/-- Appends decimal digits to a number as long as it fits 64 bits, and returns the digits that are
left. -/
def fillWord (word : Nat) : List Char → Nat × List Char
  | [] => (word, [])
  | c :: rest =>
    let next := 10 * word + (Text.digit? c).getD 0
    if next < Nat.pow 2 64 then fillWord next rest else (word, c :: rest)

/-- A power of ten as a floating-point number. -/
def powerOfTen (n : Nat) : Binary64 := Binary64.ofDecimal false 1 n

/-- Divides by a power of ten, at most `10 ^ 308` at a time. -/
def shrink (x : Binary64) (n : Nat) : Binary64 :=
  if x.significand = 0 then x
  else if n ≤ 308 then x.div (powerOfTen n)
  else shrink (x.div (powerOfTen 308)) (n - 308)
termination_by n
decreasing_by omega

/-- Multiplies by a power of ten, if the result is finite. -/
def grow? (x : Binary64) (n : Nat) : Option Binary64 :=
  if x.significand = 0 then some x
  else if n ≤ 308 then
    let product := x.mul (powerOfTen n)
    if product.isFinite then some product else none
  else none

/-- The floating-point number of a 64-bit word times a power of ten. -/
def scaledWord? (negative : Bool) (word : Nat) (exponent : Int) : Option Binary64 :=
  let x := Binary64.ofInt word
  let scaled := if 0 ≤ exponent then grow? x exponent.toNat else some (shrink x exponent.natAbs)
  scaled.map fun y => if negative then y.neg else y

/-- The digits after a point: at least one. -/
def fraction? : List Char → Option (List Char × List Char)
  | '.' :: rest =>
    let (digits, rest) := Text.spanDigits rest
    if digits.isEmpty then none else some (digits, rest)
  | rest => some ([], rest)

/-- The exponent after its mark: an optional sign and at least one digit. -/
def exponent? : List Char → Option (Option Int × List Char)
  | [] => some (none, [])
  | mark :: rest =>
    if mark == 'e' || mark == 'E' then
      let (negative, rest) := Binary64.splitSign rest
      let (digits, rest) := Text.spanDigits rest
      (Text.natural? digits).map fun n => (some (Binary64.signed negative n), rest)
    else some (none, mark :: rest)

/-- The value of a number with the given integer part, fraction and exponent. -/
def numberValue? (negative : Bool) (whole part : List Char) (exponent : Option Int) : Option Json :=
  let (word, dropped) := fillWord 0 whole
  if part.isEmpty && exponent.isNone && dropped.isEmpty
    && !(negative && (word = 0 || Nat.pow 2 63 < word))
  then some (.int (Binary64.signed negative word))
  else
    let (word, droppedPart) := fillWord word part
    let places : Int := (dropped.length : Int) - (part.length - droppedPart.length : Nat)
    (scaledWord? negative word (places + exponent.getD 0)).map .real

/-- Reads a number at the start of the text. The integer part is a zero or starts with another
digit. -/
def number? (s : List Char) : Option (Json × List Char) := do
  let (negative, rest) := match s with
    | '-' :: rest => (true, rest)
    | rest => (false, rest)
  let (whole, rest) := Text.spanDigits rest
  if whole.isEmpty || (whole.head? == some '0' && 1 < whole.length) then none
  else
    let (part, rest) ← fraction? rest
    let (exponent, rest) ← exponent? rest
    let value ← numberValue? negative whole part exponent
    pure (value, rest)

example : (number? ['-', '0']).map (·.1.text) = some "-0.0" := by decide +kernel

example : (number? "18446744073709551616".toList).map (·.1.text)
    = some "1.8446744073709552e+19" := by decide +kernel

end Relmap.Json
