import Relmap.Calendar.Reader
import Relmap.Text.Blank

/-!
# Dates and times in columns

A column of dates and times holds the form `2024-06-01 12:30:00`, a column of times the form
`12:30:00`, both without fractions of a second. They are read with tolerance: a number may have
fewer digits than its place, white space may stand in front of it, and any run of white space, or
none, separates the date from the time.
-/

namespace Relmap
namespace Calendar

/-- The text without the white space at its start. -/
def skipBlank (s : List Char) : List Char := s.dropWhile Text.isAsciiBlank

/-- A number of one digit up to `width` digits, after white space. -/
def number? (width : Nat) (s : List Char) : Option (Nat × List Char) :=
  let s := skipBlank s
  let digits := (s.take width).takeWhile Char.isDigit
  (Text.natural? digits).map fun n => (n, s.drop digits.length)

/-- A number of up to two digits within bounds. -/
def field? (low high : Nat) (s : List Char) : Option (Nat × List Char) :=
  (number? 2 s).bind fun (n, rest) => if low ≤ n && n ≤ high then some (n, rest) else none

/-- One given character. -/
def mark? (mark : Char) : List Char → Option (List Char)
  | c :: rest => if c == mark then some rest else none
  | [] => none

/-- A year of up to four digits, with an optional sign. -/
def columnYear? (s : List Char) : Option (Int × List Char) :=
  let (negative, rest) := match s with
    | '-' :: rest => (true, rest)
    | '+' :: rest => (false, rest)
    | rest => (false, rest)
  (number? 4 rest).map fun (n, rest) => (if negative then -(n : Int) else n, rest)

/-- Hours, minutes and seconds between colons, to the end of the text. -/
def columnClock? (s : List Char) : Option Clock := do
  let (hour, rest) ← field? 0 23 s
  let rest ← mark? ':' rest
  let (minute, rest) ← field? 0 59 rest
  let rest ← mark? ':' rest
  let (second, rest) ← field? 0 60 rest
  if rest.isEmpty then Clock.of? hour minute (min second 59) 0 else none

/-- A date between hyphens, a gap and a time. -/
def columnDateTime? (s : List Char) : Option DateTime := do
  let (year, rest) ← columnYear? s
  let rest ← mark? '-' rest
  let (month, rest) ← field? 1 12 rest
  let rest ← mark? '-' rest
  let (day, rest) ← field? 1 31 rest
  let clock ← columnClock? (skipBlank rest)
  let date ← Date.of? year month day
  pure ⟨date, clock⟩

/-- A year of at least four characters, its sign counted. -/
def columnYearChars (year : Int) : List Char :=
  if year < 0 then '-' :: Text.padded 3 year.natAbs else Text.padded 4 year.natAbs

end Calendar

open Calendar

/-- The form of a column of dates and times. -/
def DateTime.columnText (t : DateTime) : String :=
  String.ofList (columnYearChars t.date.year ++ '-' :: (Text.padded 2 t.date.month ++
    '-' :: (Text.padded 2 t.date.day ++ ' ' :: t.clock.secondChars)))

/-- The form of a column of times. -/
def Clock.columnText (t : Clock) : String := String.ofList t.secondChars

/-- Reads the form of a column, or else a standard form. -/
def DateTime.ofColumn? (s : String) : Option DateTime :=
  (columnDateTime? s.toList).or (DateTime.ofText? s)

/-- Reads the form of a column, or else a standard form. -/
def Clock.ofColumn? (s : String) : Option Clock :=
  (columnClock? s.toList).or (Clock.ofText? s)

end Relmap
