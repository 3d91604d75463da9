import Relmap.Number.Binary64
import Relmap.Text.Blank
import Relmap.Text.Digits

/-!
# Decimal texts of floating-point numbers

A finite number other than zero is written with the fewest digits that read back to it, and with
the nearest of the decimals of that length. Two layouts use these digits: `Binary64.plain`, which
never writes an exponent, and `Binary64.compact`, which writes one outside a middle range.
`Binary64.ofText?` reads the texts of numbers, correctly rounded.
-/

namespace Relmap

/-- The decimal `digits * 10 ^ exponent`. -/
structure Decimal where
  digits : Nat
  exponent : Int
deriving DecidableEq, Repr

namespace Decimal

/-- Which of two equally near decimals is taken. -/
inductive Tie where
  | toEven
  | up
deriving DecidableEq

/-- Compares `a * 10 ^ i` with `n * 2 ^ j`. -/
def compareScaled (a : Nat) (i : Int) (n : Nat) (j : Int) : Ordering :=
  compare (a * Nat.pow 10 i.toNat * Nat.pow 2 (-j).toNat)
    (n * Nat.pow 2 j.toNat * Nat.pow 10 (-i).toNat)

/-- The decimal lies among the reals that round to the magnitude of `x`: between the midpoints to
its two neighbours, which belong to it exactly when its significand is even. Below a power of two
the gap is half as wide. -/
def readsBack (x : Binary64) (d : Decimal) : Bool :=
  let m := x.significand
  let narrow := x.fraction == 0 && 1 < x.exponentField
  let lowest := if narrow then 4 * m - 1 else 4 * m - 2
  let below := compareScaled d.digits d.exponent lowest (x.scale - 2)
  let above := compareScaled d.digits d.exponent (4 * m + 2) (x.scale - 2)
  let closed := m % 2 == 0
  (below == .gt || closed && below == .eq) && (above == .lt || closed && above == .eq)

/-- The least `k` for which the magnitude of `x` is below `10 ^ k`. -/
def leadPlace (x : Binary64) : Int :=
  let guess : Int := ((x.significand.log2 : Int) + x.scale) * 30103 / 100000
  if compareScaled 1 guess x.significand x.scale == .gt then guess
  else if compareScaled 1 (guess + 1) x.significand x.scale == .gt then guess + 1
  else guess + 2

/-- The nearest decimal to the magnitude of `x` on the grid `10 ^ place` that reads back, if the
grid has one. -/
def onGrid? (tie : Tie) (x : Binary64) (place : Int) : Option Decimal :=
  let num := x.significand * Nat.pow 2 x.scale.toNat * Nat.pow 10 (-place).toNat
  let den := Nat.pow 2 (-x.scale).toNat * Nat.pow 10 place.toNat
  let low : Decimal := ⟨num / den, place⟩
  let high : Decimal := ⟨num / den + 1, place⟩
  match readsBack x low, readsBack x high with
  | true, false => some low
  | false, true => some high
  | false, false => none
  | true, true =>
    match compare (2 * num) (den * (low.digits + high.digits)) with
    | .lt => some low
    | .gt => some high
    | .eq =>
      match tie with
      | .up => some high
      | .toEven => if low.digits % 2 == 0 then some low else some high

/-- The decimal without the zeros at the end of its digits. -/
def stripped (fuel : Nat) (d : Decimal) : Decimal :=
  match fuel with
  | 0 => d
  | fuel + 1 =>
    if d.digits != 0 && d.digits % 10 == 0 then stripped fuel ⟨d.digits / 10, d.exponent + 1⟩ else d

/-- The exact value of a finite magnitude. -/
def exact (x : Binary64) : Decimal :=
  ⟨x.significand * Nat.pow 2 x.scale.toNat * Nat.pow 5 (-x.scale).toNat,
    -((-x.scale).toNat : Int)⟩

/-- The shortest decimal that reads back to the magnitude of a finite number other than zero. Up to
seventeen digits are tried, coarse grids first. -/
def shortest (tie : Tie) (x : Binary64) : Decimal :=
  let lead := leadPlace x
  let found := (List.range 17).findSome? fun n => onGrid? tie x (lead - (n + 1 : Nat))
  stripped 400 (found.getD (exact x))

end Decimal

namespace Binary64

/-- The minus sign of a negative number. -/
def signText (x : Binary64) : List Char := if x.negative then ['-'] else []

/-- Digits with a decimal point, `point` places from their left end, and zeros where the point lies
outside them. -/
def placePoint (digits : List Char) (point : Int) : List Char :=
  if point ≤ 0 then '0' :: '.' :: (List.replicate (-point).toNat '0' ++ digits)
  else if (digits.length : Int) ≤ point then
    digits ++ List.replicate (point.toNat - digits.length) '0'
  else digits.take point.toNat ++ '.' :: digits.drop point.toNat

/-- The text of a number without an exponent: `0.1`, `1000000000000000000000`, `-0`, `NaN`, `inf`.
Of two equally near decimals the upper one is written. -/
def plain (x : Binary64) : String :=
  if x.isNaN then "NaN"
  else if !x.isFinite then String.ofList (x.signText ++ ['i', 'n', 'f'])
  else if x.significand = 0 then String.ofList (x.signText ++ ['0'])
  else
    let d := Decimal.shortest .up x
    let digits := Text.decimal d.digits
    String.ofList (x.signText ++ placePoint digits (d.exponent + digits.length))

/-- The text of a finite number in structured data: always with a point or an exponent, the latter
for a leading digit at or above `10 ^ 16` or below `10 ^ -5`. Of two equally near decimals the even
one is written. -/
def compact (x : Binary64) : String :=
  if x.significand = 0 then String.ofList (x.signText ++ ['0', '.', '0'])
  else
    let d := Decimal.shortest .toEven x
    let digits := Text.decimal d.digits
    let point := d.exponent + digits.length
    let body :=
      if -4 ≤ point && point ≤ 16 then
        let positional := placePoint digits point
        if positional.contains '.' then positional else positional ++ ['.', '0']
      else
        let mantissa := match digits with
          | first :: second :: rest => first :: '.' :: second :: rest
          | short => short
        let power := Text.decimal (point - 1).natAbs
        mantissa ++ 'e' :: (if point - 1 < 0 then '-' else '+') :: power
    String.ofList (x.signText ++ body)

/-- A sign in front of a text. -/
def splitSign : List Char → Bool × List Char
  | '-' :: rest => (true, rest)
  | '+' :: rest => (false, rest)
  | rest => (false, rest)

/-- An exponent: nothing, or the mark with an optional sign and at least one digit. -/
def exponent? : List Char → Option Int
  | [] => some 0
  | mark :: rest =>
    if mark == 'e' || mark == 'E' then
      let (negative, digits) := splitSign rest
      (Text.natural? digits).map (signed negative)
    else none

/-- An unsigned decimal: digits with at most one point, at least one digit, and an exponent. -/
def unsigned? (negative : Bool) (s : List Char) : Option Binary64 :=
  let (whole, rest) := Text.spanDigits s
  let (part, rest) := match rest with
    | '.' :: rest => Text.spanDigits rest
    | rest => ([], rest)
  if whole.isEmpty && part.isEmpty then none
  else (exponent? rest).map fun e =>
    ofDecimal negative (Text.continueNumber 0 (whole ++ part)) (e - part.length)

/-- Reads a number: an optional sign, then a decimal or, in any case, the name of infinity or of
the NaN. -/
def ofText? (s : List Char) : Option Binary64 :=
  let (negative, body) := splitSign s
  let name := String.ofList (body.map Char.toLower)
  if name = "inf" || name = "infinity" then some (withSign negative infinityBits)
  else if name = "nan" then some (withSign negative (infinityBits + Nat.pow 2 51))
  else unsigned? negative body

example : (ofText? "0.3".toList).map plain = some "0.3" := by decide +kernel

example : plain ⟨0x444b1ae4d6e2ef50⟩ = "1000000000000000000000" := by decide +kernel

example : compact ⟨0x3e7ad7f29abcaf48⟩ = "1e-7" := by decide +kernel

end Binary64
end Relmap
