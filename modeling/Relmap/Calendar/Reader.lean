import Relmap.Calendar.Annotation
import Relmap.Calendar.Timestamp

/-!
# Reading dates and times

The standard forms: a date, or a date and a time with an optional offset from UTC, and annotations
in brackets after them. With hyphens or colons a part is in the extended form, without them in the
basic form; one part does not mix the two. A leap second reads as the second before it.

* `Date.ofText?`, `DateTime.ofText?` and `Clock.ofText?` ignore an offset but refuse the letter Z,
  since a time in UTC has no place on a calendar of no time zone.
* `Timestamp.ofText?` needs the letter Z or an offset.
-/

namespace Relmap
namespace Calendar

open Text (takeDigits? spanDigits natural? padded)

/-- A number of exactly two digits within bounds. -/
def twoDigits? (low high : Nat) (s : List Char) : Option (Nat × List Char) :=
  (takeDigits? 2 s).bind fun (n, rest) => if low ≤ n && n ≤ high then some (n, rest) else none

/-- A year: four digits, or a sign and six. The year zero has no negative form. -/
def year? (s : List Char) : Option (Int × List Char) :=
  match s with
  | '-' :: rest =>
    (takeDigits? 6 rest).bind fun (n, rest) =>
      if 0 < n && n ≤ 9999 then some (-(n : Int), rest) else none
  | '+' :: rest =>
    (takeDigits? 6 rest).bind fun (n, rest) => if n ≤ 9999 then some ((n : Int), rest) else none
  | s => (takeDigits? 4 s).map fun (n, rest) => ((n : Int), rest)

/-- The separator of the extended form, or nothing in the basic one. -/
def separator? (mark : Char) (extended : Bool) (s : List Char) : Option (List Char) :=
  match s with
  | c :: rest =>
    if extended then (if c == mark then some rest else none)
    else if c == mark then none else some (c :: rest)
  | [] => if extended then none else some []

/-- A date at the start of a text. -/
def date? (s : List Char) : Option (Date × List Char) := do
  let (year, rest) ← year? s
  let extended := rest.head? == some '-'
  let rest ← separator? '-' extended rest
  let (month, rest) ← twoDigits? 1 12 rest
  let rest ← separator? '-' extended rest
  let (day, rest) ← twoDigits? 1 31 rest
  let date ← Date.of? year month day
  pure (date, rest)

/-- Whether another part of a time follows, and the text after its separator. -/
def nextPart (extended : Bool) (s : List Char) : Option (List Char) :=
  if extended then
    match s with
    | ':' :: rest => some rest
    | _ => none
  else if (takeDigits? 2 s).isSome then some s else none

/-- A fraction of a second: a point or a comma and one to nine digits, in nanoseconds. -/
def fraction? (s : List Char) : Option (Nat × List Char) :=
  match s with
  | mark :: rest =>
    if mark == '.' || mark == ',' then
      let digits := (rest.take 9).takeWhile Char.isDigit
      (natural? digits).map fun n =>
        (n * Nat.pow 10 (9 - digits.length), rest.drop digits.length)
    else some (0, mark :: rest)
  | [] => some (0, [])

/-- A second, of which the sixtieth is a leap second. -/
def second? (s : List Char) : Option (Nat × List Char) :=
  (twoDigits? 0 60 s).map fun (n, rest) => (min n 59, rest)

/-- A time at the start of a text: an hour, then minutes, then seconds with a fraction. The flag
tells whether colons were used. -/
def clock? (s : List Char) : Option (Clock × Bool × List Char) := do
  let (hour, rest) ← twoDigits? 0 23 s
  let extended := rest.head? == some ':'
  match nextPart extended rest with
  | none => pure (← Clock.of? hour 0 0 0, extended, rest)
  | some rest =>
    let (minute, rest) ← twoDigits? 0 59 rest
    match nextPart extended rest with
    | none => pure (← Clock.of? hour minute 0 0, extended, rest)
    | some rest =>
      let (second, rest) ← second? rest
      let (nanosecond, rest) ← fraction? rest
      pure (← Clock.of? hour minute second nanosecond, extended, rest)

/-- What is said of the time zone after a time. -/
inductive Zone where
  | unsaid
  | utc
  | offset (seconds : Int)

/-- A time zone: nothing, the letter Z, or a sign and hours with optional minutes and seconds, at
most 25:59:59. A fraction of a second is rounded. -/
def zone? (s : List Char) : Option (Zone × List Char) :=
  match s with
  | [] => some (.unsaid, [])
  | mark :: rest =>
    if mark == 'Z' || mark == 'z' then some (.utc, rest)
    else if mark == '+' || mark == '-' then do
      let turn := fun (n : Nat) => if mark == '-' then -(n : Int) else n
      let (hours, rest) ← twoDigits? 0 25 rest
      let extended := rest.head? == some ':'
      match nextPart extended rest with
      | none => pure (.offset (turn (hours * 3600)), rest)
      | some rest =>
        let (minutes, rest) ← twoDigits? 0 59 rest
        match nextPart extended rest with
        | none => pure (.offset (turn (hours * 3600 + minutes * 60)), rest)
        | some rest =>
          let (seconds, rest) ← twoDigits? 0 59 rest
          let (nanosecond, rest) ← fraction? rest
          let round := if 500000000 ≤ nanosecond then 1 else 0
          pure (.offset (turn (hours * 3600 + minutes * 60 + seconds + round)), rest)
    else some (.unsaid, mark :: rest)

/-- A date with an optional time and time zone. -/
structure Reading where
  date : Date
  clock : Option Clock
  zone : Zone

/-- A date at the start of a text, and after a T or a space a time with an optional zone. -/
def reading? (s : List Char) : Option (Reading × List Char) := do
  let (date, rest) ← date? s
  match rest with
  | [] => pure (⟨date, none, .unsaid⟩, [])
  | mark :: rest =>
    if mark == ' ' || mark == 'T' || mark == 't' then
      let (clock, _, rest) ← clock? rest
      let (zone, rest) ← zone? rest
      pure (⟨date, some clock, zone⟩, rest)
    else pure (⟨date, none, .unsaid⟩, mark :: rest)

/-- A reading of a whole text, of which annotations may be left. -/
def whole? {α : Type} (reading : Option (α × List Char)) : Option α :=
  (reading.filter fun r => isAnnotations r.2).map (·.1)

/-- A reading on a calendar of no time zone: it does not name UTC. -/
def isCivil (zone : Zone) : Bool :=
  match zone with
  | .utc => false
  | _ => true

/-- A whole text as a date with an optional time and no mention of UTC. -/
def civil? (s : String) : Option Reading :=
  (whole? (reading? s.toList)).filter fun r => isCivil r.zone

/-- The digits of a time in the basic form also begin a month and a day, or a year and a month. -/
def isAmbiguous (s : List Char) : Bool :=
  let dropHyphen := fun (s : List Char) => if s.head? == some '-' then s.drop 1 else s
  let monthDay := do
    let (month, rest) ← twoDigits? 1 12 s
    let (day, _) ← twoDigits? 1 31 (dropHyphen rest)
    Date.of? 2024 month day
  let yearMonth := do
    let (year, rest) ← year? s
    let (month, _) ← twoDigits? 1 12 (dropHyphen rest)
    Date.of? year month 1
  monthDay.isSome || yearMonth.isSome

/-- A whole text as a time with an optional offset. -/
def bareClock? (s : List Char) : Option (Clock × Bool) := do
  let (clock, extended, rest) ← clock? s
  let (zone, rest) ← zone? rest
  if isAnnotations rest && isCivil zone then pure (clock, extended) else none

end Calendar

open Calendar

/-- Reads a date, alone or in front of a time. -/
def Date.ofText? (s : String) : Option Date := (civil? s).map (·.date)

/-- Reads a date with an optional time, which is midnight by default. -/
def DateTime.ofText? (s : String) : Option DateTime :=
  (civil? s).map fun r => ⟨r.date, r.clock.getD Clock.midnight⟩

/-- Reads a time: after a T, after a date, or alone. A time alone must not look like a part of a
date. -/
def Clock.ofText? (s : String) : Option Clock :=
  match s.toList with
  | 'T' :: rest => (bareClock? rest).map (·.1)
  | 't' :: rest => (bareClock? rest).map (·.1)
  | chars =>
    match reading? chars with
    | some (r, rest) => if isAnnotations rest && isCivil r.zone then r.clock else none
    | none =>
      (bareClock? chars).bind fun (clock, extended) =>
        if !extended && isAmbiguous chars then none else some clock

/-- Reads a moment: a date, a time, and Z or an offset. -/
def Timestamp.ofText? (s : String) : Option Timestamp := do
  let r ← whole? (reading? s.toList)
  let clock ← r.clock
  match r.zone with
  | .unsaid => none
  | .utc => Timestamp.ofUtc? ⟨r.date, clock⟩
  | .offset seconds => Timestamp.ofOffset? ⟨r.date, clock⟩ seconds

end Relmap
