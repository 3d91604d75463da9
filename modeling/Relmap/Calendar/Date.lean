import Relmap.Text.Digits

/-!
# Calendar dates and clock times

Dates of the proleptic Gregorian calendar from year -9999 to year 9999, clock times to the
nanosecond, and their written forms. A year is written with four digits, a negative one with a sign
and six. A fraction of a second is written without the zeros at its end.
-/

namespace Relmap

/-- The years of the calendar. -/
def yearBounds : Int × Int := (-9999, 9999)

/-- A leap year of the Gregorian calendar. -/
def isLeapYear (year : Int) : Bool := year % 4 == 0 && (year % 100 != 0 || year % 400 == 0)

/-- The number of days of a month. -/
def daysInMonth (year : Int) (month : Nat) : Nat :=
  match month with
  | 2 => if isLeapYear year then 29 else 28
  | 4 | 6 | 9 | 11 => 30
  | _ => 31

/-- A year, a month and a day that name a day of the calendar. -/
def isCalendarDay (year : Int) (month day : Nat) : Bool :=
  yearBounds.1 ≤ year && year ≤ yearBounds.2 && 1 ≤ month && month ≤ 12 && 1 ≤ day &&
    day ≤ daysInMonth year month

/-- A day of the calendar. -/
structure Date where
  year : Int
  month : Nat
  day : Nat
  isDay : isCalendarDay year month day = true
deriving DecidableEq

/-- A time of the day. -/
structure Clock where
  hour : Nat
  minute : Nat
  second : Nat
  nanosecond : Nat
  inRange : hour < 24 ∧ minute < 60 ∧ second < 60 ∧ nanosecond < 1000000000
deriving DecidableEq

/-- A day and a time of the day, without a time zone. -/
structure DateTime where
  date : Date
  clock : Clock
deriving DecidableEq

namespace Date

/-- The day with the given numbers, if the calendar has it. -/
def of? (year : Int) (month day : Nat) : Option Date :=
  if h : isCalendarDay year month day = true then some ⟨year, month, day, h⟩ else none

/-- The written year. -/
def yearChars (year : Int) : List Char :=
  if year < 0 then '-' :: Text.padded 6 year.natAbs else Text.padded 4 year.natAbs

/-- Year, month and day between hyphens. -/
def chars (d : Date) : List Char :=
  yearChars d.year ++ '-' :: (Text.padded 2 d.month ++ '-' :: Text.padded 2 d.day)

def text (d : Date) : String := String.ofList d.chars

/-- The number of days from 1 March of the year 0 to the day. The year is counted from March, so
that the leap day comes last. -/
def dayNumber (d : Date) : Int :=
  let year := if d.month ≤ 2 then d.year - 1 else d.year
  let month := if d.month ≤ 2 then d.month + 9 else d.month - 3
  365 * year + year / 4 - year / 100 + year / 400 + ((153 * month + 2) / 5 : Nat) + (d.day - 1)

/-- The day with the given number, if it is in the calendar. -/
def ofDayNumber? (n : Int) : Option Date :=
  let era := n / 146097
  let dayOfEra := (n % 146097).toNat
  let yearOfEra := (dayOfEra - dayOfEra / 1460 + dayOfEra / 36524 - dayOfEra / 146096) / 365
  let dayOfYear := dayOfEra - (365 * yearOfEra + yearOfEra / 4 - yearOfEra / 100)
  let month := (5 * dayOfYear + 2) / 153
  let day := dayOfYear - (153 * month + 2) / 5 + 1
  let year := (yearOfEra : Int) + era * 400
  if month < 10 then of? year (month + 3) day else of? (year + 1) (month - 9) day

end Date

namespace Clock

/-- The time with the given numbers, if they are in range. -/
def of? (hour minute second nanosecond : Nat) : Option Clock :=
  if h : hour < 24 ∧ minute < 60 ∧ second < 60 ∧ nanosecond < 1000000000 then
    some ⟨hour, minute, second, nanosecond, h⟩
  else none

/-- The first moment of a day. -/
def midnight : Clock := ⟨0, 0, 0, 0, by decide⟩

/-- Hours, minutes and whole seconds between colons. -/
def secondChars (t : Clock) : List Char :=
  Text.padded 2 t.hour ++ ':' :: (Text.padded 2 t.minute ++ ':' :: Text.padded 2 t.second)

/-- The fraction of the second, after a point and without zeros at its end. -/
def fractionChars (nanosecond : Nat) : List Char :=
  if nanosecond = 0 then []
  else '.' :: ((Text.padded 9 nanosecond).reverse.dropWhile (· == '0')).reverse

def chars (t : Clock) : List Char := t.secondChars ++ fractionChars t.nanosecond

def text (t : Clock) : String := String.ofList t.chars

/-- The time without its fraction of a second. -/
def whole (t : Clock) : Clock := ⟨t.hour, t.minute, t.second, 0, by have := t.inRange; omega⟩

end Clock

namespace DateTime

/-- The date and the time around the letter T. -/
def text (t : DateTime) : String := String.ofList (t.date.chars ++ 'T' :: t.clock.chars)

/-- The time without its fraction of a second. -/
def whole (t : DateTime) : DateTime := { t with clock := t.clock.whole }

/-- The number of seconds from 1 March of the year 0 to the time. -/
def secondNumber (t : DateTime) : Int :=
  t.date.dayNumber * 86400 + (t.clock.hour * 3600 + t.clock.minute * 60 + t.clock.second : Nat)

/-- The time so many seconds later, if it is in the calendar. -/
def addSeconds? (t : DateTime) (seconds : Int) : Option DateTime := do
  let total := t.secondNumber + seconds
  let rest := (total % 86400).toNat
  let date ← Date.ofDayNumber? (total / 86400)
  let clock ← Clock.of? (rest / 3600) (rest % 3600 / 60) (rest % 60) t.clock.nanosecond
  pure ⟨date, clock⟩

end DateTime

example : (Date.of? (-1) 12 31).map Date.text = some "-000001-12-31" := by decide +kernel

example : (Clock.of? 1 2 3 500000000).map Clock.text = some "01:02:03.5" := by decide +kernel

end Relmap
