/-!
# Digits

Reading and writing of natural numbers in decimal and of single hexadecimal digits, over lists of
characters.
-/

namespace Relmap.Text

/-- The value of an ASCII decimal digit. -/
def digit? (c : Char) : Option Nat :=
  if c.isDigit then some (c.toNat - '0'.toNat) else none

/-- The value of a hexadecimal digit in either case. -/
def hexDigit? (c : Char) : Option Nat :=
  if c.isDigit then some (c.toNat - '0'.toNat)
  else if 'a' ≤ c && c ≤ 'f' then some (c.toNat - 'a'.toNat + 10)
  else if 'A' ≤ c && c ≤ 'F' then some (c.toNat - 'A'.toNat + 10)
  else none

/-- The lower-case hexadecimal digit of a number below sixteen. -/
def hexDigit (n : Nat) : Char := Nat.digitChar n

/-- The number that a run of decimal digits continues: `value 12 "34"` is 1234. Other characters
count as zero, so the caller checks the run first. -/
def continueNumber (start : Nat) (digits : List Char) : Nat :=
  digits.foldl (fun n c => 10 * n + (digit? c).getD 0) start

/-- A non-empty text of decimal digits as a number. -/
def natural? (s : List Char) : Option Nat :=
  if s.isEmpty || !s.all Char.isDigit then none else some (continueNumber 0 s)

/-- The longest run of digits at the start, and the rest. -/
def spanDigits (s : List Char) : List Char × List Char :=
  (s.takeWhile Char.isDigit, s.dropWhile Char.isDigit)

/-- The decimal digits of a number. -/
def decimal (n : Nat) : List Char := Nat.toDigits 10 n

/-- The decimal digits of a number, with zeros in front up to the given width. -/
def padded (width n : Nat) : List Char :=
  List.replicate (width - (decimal n).length) '0' ++ decimal n

/-- Exactly `count` digits at the start of the text, as a number with the rest. -/
def takeDigits? (count : Nat) (s : List Char) : Option (Nat × List Char) :=
  if (s.take count).length = count then
    (natural? (s.take count)).map fun n => (n, s.drop count)
  else none

example : padded 4 24 = ['0', '0', '2', '4'] := by decide

example : takeDigits? 2 ['0', '6', '-'] = some (6, ['-']) := by decide

end Relmap.Text
