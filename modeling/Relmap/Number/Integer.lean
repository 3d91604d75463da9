import Relmap.Number.Binary64
import Relmap.Text.Digits

/-!
# Texts of 64-bit integers
-/

namespace Relmap

/-- An integer as a 64-bit signed one, if it is in range. -/
def int64? (n : Int) : Option Int64 :=
  if Binary64.int64Bounds.1 ≤ n && n ≤ Binary64.int64Bounds.2 then some (Int64.ofInt n) else none

/-- Reads an integer: an optional sign and decimal digits, in range. -/
def int64OfText? (s : List Char) : Option Int64 := do
  let (negative, digits) := match s with
    | '-' :: rest => (true, rest)
    | '+' :: rest => (false, rest)
    | rest => (false, rest)
  int64? (Binary64.signed negative (← Text.natural? digits))

/-- The decimal text of an integer. -/
def integerText (n : Int) : String :=
  String.ofList ((if n < 0 then ['-'] else []) ++ Text.decimal n.natAbs)

/-- The decimal text of a 64-bit integer. -/
def int64Text (n : Int64) : String := integerText n.toInt

example : int64OfText? "-9223372036854775808".toList = some Int64.minValue := by decide +kernel

example : int64OfText? "9223372036854775808".toList = none := by decide +kernel

end Relmap
