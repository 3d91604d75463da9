import Relmap.Calendar.Pattern
import Relmap.Proofs.Text.Digits
import Mathlib.Data.List.TakeWhile

/-!
# Dates and times read back

What is written for a date, a moment or a column is read as what it was written for, a column
without fractions of a second.
-/

namespace Relmap

open Text (padded)

namespace Date

theorem bounds (d : Date) : -9999 ≤ d.year ∧ d.year ≤ 9999 ∧ 1 ≤ d.month ∧ d.month ≤ 12 ∧
    1 ≤ d.day ∧ d.day ≤ 31 := by
  have isDay := d.isDay
  simp only [isCalendarDay, yearBounds, Bool.and_eq_true, decide_eq_true_eq] at isDay
  obtain ⟨⟨⟨⟨⟨first, last⟩, oneMonth⟩, months⟩, oneDay⟩, days⟩ := isDay
  have most : daysInMonth d.year d.month ≤ 31 := by
    unfold daysInMonth
    split
    · split <;> decide
    all_goals decide
  exact ⟨of_decide_eq_true first, of_decide_eq_true last, oneMonth, months, oneDay,
    Nat.le_trans days most⟩

theorem of?_self (d : Date) : of? d.year d.month d.day = some d := dif_pos d.isDay

end Date

theorem Clock.of?_self (t : Clock) : of? t.hour t.minute t.second t.nanosecond = some t :=
  dif_pos t.inRange

namespace Calendar

/-! ## Standard forms -/

/-- A digit is none of the marks that are told apart from it. -/
theorem ne_of_isDigit {c mark : Char} (digit : c.isDigit = true) (other : mark.isDigit = false) :
    c ≠ mark := by
  rintro rfl
  rw [digit] at other
  cases other

theorem twoDigits?_padded {low high n : Nat} (least : low ≤ n) (most : n ≤ high)
    (fits : high < 100) (rest : List Char) :
    twoDigits? low high (padded 2 n ++ rest) = some (n, rest) := by
  rw [twoDigits?, Text.takeDigits?_padded (by decide) (by omega)]
  simp [least, most]

theorem year?_yearChars {year : Int} (least : -9999 ≤ year) (most : year ≤ 9999)
    (rest : List Char) : year? (Date.yearChars year ++ rest) = some (year, rest) := by
  unfold Date.yearChars
  split
  · rename_i negative
    have fits : year.natAbs < 10 ^ 6 := by omega
    have read := Text.takeDigits?_padded (by decide) fits rest
    have inBounds : (0 < year.natAbs && year.natAbs ≤ 9999) = true := by
      simp only [Bool.and_eq_true, decide_eq_true_eq]
      omega
    have signed : -(year.natAbs : Int) = year := by omega
    rw [List.cons_append, year?, read, Option.bind_some]
    simp only [inBounds, if_true, signed]
  · rename_i positive
    have unsigned : (year.natAbs : Int) = year := by omega
    have spells := Text.spells_padded 4 year.natAbs
    have fits : year.natAbs < 10 ^ 4 := by omega
    have read := Text.takeDigits?_padded (by decide) fits rest
    obtain ⟨first, others, isCons⟩ := List.exists_cons_of_ne_nil spells.nonempty
    rw [isCons] at spells read ⊢
    have digit := spells.digits first List.mem_cons_self
    -- The text starts with a digit, so neither sign is read.
    unfold year?
    split
    · rename_i same
      exact absurd (List.cons.inj same).1 (ne_of_isDigit digit (by decide))
    · rename_i same
      exact absurd (List.cons.inj same).1 (ne_of_isDigit digit (by decide))
    · rw [read, Option.map_some]
      simp only [unsigned]

theorem date?_chars (d : Date) (rest : List Char) : date? (d.chars ++ rest) = some (d, rest) := by
  obtain ⟨first, last, oneMonth, months, oneDay, days⟩ := d.bounds
  simp [date?, Date.chars, year?_yearChars first last, separator?,
    twoDigits?_padded oneMonth months (by decide), twoDigits?_padded oneDay days (by decide),
    d.of?_self]

/-! ## Fractions of a second -/

/-- The text without the zeros at its end. -/
def stripped (s : List Char) : List Char := (s.reverse.dropWhile (· == '0')).reverse

theorem exists_zeros (s : List Char) : ∃ n, s = stripped s ++ List.replicate n '0' := by
  have zeros : ∀ c ∈ s.reverse.takeWhile (· == '0'), c = '0' :=
    fun c member => beq_iff_eq.mp (List.mem_takeWhile_imp (p := fun c => c == '0') member)
  refine ⟨(s.reverse.takeWhile (· == '0')).length, ?_⟩
  calc s = (s.reverse.takeWhile (· == '0') ++ s.reverse.dropWhile (· == '0')).reverse := by
        rw [List.takeWhile_append_dropWhile, List.reverse_reverse]
    _ = stripped s ++ (s.reverse.takeWhile (· == '0')).reverse := by
        rw [List.reverse_append, stripped]
    _ = stripped s ++ List.replicate (s.reverse.takeWhile (· == '0')).length '0' := by
        rw [List.eq_replicate_of_mem zeros, List.reverse_replicate, List.length_replicate]

/-- A fraction of a second, in front of the letter Z. -/
theorem fraction?_fractionChars {n : Nat} (fits : n < 1000000000) (rest : List Char) :
    fraction? (Clock.fractionChars n ++ 'Z' :: rest) = some (n, 'Z' :: rest) := by
  unfold Clock.fractionChars
  split
  · rename_i zero
    subst zero
    rfl
  · rename_i positive
    have spells := Text.spells_padded 9 n
    have width : (padded 9 n).length = 9 := Text.length_padded (by decide) fits
    obtain ⟨zeros, split⟩ := exists_zeros (padded 9 n)
    rw [split, List.length_append, List.length_replicate] at width
    have value := spells.value
    rw [split, Nat.ofDigitChars_append, Nat.ofDigitChars_replicate_zero] at value
    have spellsFront : Text.Spells (stripped (padded 9 n))
        (Nat.ofDigitChars 10 (stripped (padded 9 n)) 0) := by
      refine ⟨fun none => positive ?_, fun c member => spells.digits c ?_, rfl⟩
      · rw [none, Nat.ofDigitChars_nil, Nat.mul_zero] at value
        exact value.symm
      · rw [split]
        exact List.mem_append_left _ member
    have digits : ((stripped (padded 9 n) ++ 'Z' :: rest).take 9).takeWhile Char.isDigit =
        stripped (padded 9 n) :=
      Text.takeWhile_take spellsFront.digits (by omega) (by rintro _ ⟨⟩; rfl)
    have scale : 9 - (stripped (padded 9 n)).length = zeros := by omega
    change fraction? ('.' :: (stripped (padded 9 n) ++ 'Z' :: rest)) = _
    simp only [fraction?, digits, Text.natural?_of_spells spellsFront, List.drop_left, scale]
    simp only [beq_self_eq_true, Bool.true_or, if_true, Option.map_some, Option.some.injEq,
      Prod.mk.injEq, and_true]
    rw [Nat.mul_comm]
    exact value

/-! ## Times -/

theorem clock?_chars (t : Clock) (rest : List Char) :
    clock? (t.chars ++ 'Z' :: rest) = some (t, true, 'Z' :: rest) := by
  obtain ⟨hours, minutes, seconds, fits⟩ := t.inRange
  have hour := twoDigits?_padded (Nat.zero_le t.hour) (Nat.le_of_lt_succ hours) (by decide)
  have minute := twoDigits?_padded (Nat.zero_le t.minute) (Nat.le_of_lt_succ minutes) (by decide)
  have second := twoDigits?_padded (Nat.zero_le t.second) (Nat.le_of_lt seconds) (by decide)
  simp [clock?, Clock.chars, Clock.secondChars, hour, minute, second, nextPart, second?,
    fraction?_fractionChars fits, Nat.min_eq_left (Nat.le_of_lt_succ seconds), t.of?_self]

/-! ## Columns -/

theorem skipBlank_of_isDigit {s : List Char} (digit : ∀ c ∈ s.head?, c.isDigit = true) :
    skipBlank s = s := by
  cases s with
  | nil => rfl
  | cons c rest =>
    have visible : ¬Text.isAsciiBlank c = true := by
      intro blank
      have digit := digit c rfl
      simp only [Text.isAsciiBlank, Bool.or_eq_true, beq_iff_eq] at blank
      rcases blank with (((rfl | rfl) | rfl) | rfl) | rfl <;> cases digit
    exact List.dropWhile_cons_of_neg visible

/-- A number in a column, which is followed by the end or by a mark. -/
theorem number?_of_spells {width n : Nat} {s rest : List Char} (spells : Text.Spells s n)
    (fits : s.length ≤ width) (closed : ∀ c ∈ rest.head?, c.isDigit = false) :
    number? width (s ++ rest) = some (n, rest) := by
  have visible : skipBlank (s ++ rest) = s ++ rest := by
    refine skipBlank_of_isDigit fun c first => ?_
    obtain ⟨digit, others, rfl⟩ := List.exists_cons_of_ne_nil spells.nonempty
    obtain rfl := Option.some.inj first
    exact spells.digits _ List.mem_cons_self
  simp only [number?, visible, Text.takeWhile_take spells.digits fits closed,
    Text.natural?_of_spells spells, Option.map_some, List.drop_left]

theorem field?_padded {low high n : Nat} (least : low ≤ n) (most : n ≤ high) (fits : high < 100)
    (rest : List Char) (closed : ∀ c ∈ rest.head?, c.isDigit = false) :
    field? low high (padded 2 n ++ rest) = some (n, rest) := by
  have width : (padded 2 n).length = 2 := Text.length_padded (by decide) (by omega)
  rw [field?, number?_of_spells (Text.spells_padded 2 n) (Nat.le_of_eq width) closed]
  simp [least, most]

theorem columnClock?_secondChars (t : Clock) : columnClock? t.secondChars = some t.whole := by
  obtain ⟨hours, minutes, seconds, -⟩ := t.inRange
  have hour {rest : List Char} := field?_padded (Nat.zero_le t.hour) (Nat.le_of_lt_succ hours)
    (by decide) (':' :: rest) (by rintro _ ⟨⟩; rfl)
  have minute {rest : List Char} := field?_padded (Nat.zero_le t.minute)
    (Nat.le_of_lt_succ minutes) (by decide) (':' :: rest) (by rintro _ ⟨⟩; rfl)
  have second := field?_padded (Nat.zero_le t.second) (Nat.le_of_lt seconds) (by decide) [] nofun
  rw [List.append_nil] at second
  simp [columnClock?, Clock.secondChars, hour, minute, second, mark?,
    Nat.min_eq_left (Nat.le_of_lt_succ seconds),
    show Clock.of? t.hour t.minute t.second 0 = some t.whole
      from t.whole.of?_self]

theorem columnYear?_columnYearChars {year : Int} (least : -9999 ≤ year) (most : year ≤ 9999)
    (rest : List Char) (closed : ∀ c ∈ rest.head?, c.isDigit = false) :
    columnYear? (columnYearChars year ++ rest) = some (year, rest) := by
  unfold columnYearChars
  split
  · rename_i negative
    have signed : -(year.natAbs : Int) = year := by omega
    have fits : (padded 3 year.natAbs).length ≤ 4 :=
      Text.length_padded_le (by decide) (by decide) (by omega)
    have read := number?_of_spells (Text.spells_padded 3 year.natAbs) fits closed
    change (number? 4 (padded 3 year.natAbs ++ rest)).map _ = _
    rw [read]
    exact congrArg (fun signed => some (signed, rest)) signed
  · rename_i positive
    have unsigned : (year.natAbs : Int) = year := by omega
    have fits : (padded 4 year.natAbs).length ≤ 4 :=
      Text.length_padded_le (by decide) (by decide) (by omega)
    have spells := Text.spells_padded 4 year.natAbs
    have read := number?_of_spells spells fits closed
    obtain ⟨first, others, isCons⟩ := List.exists_cons_of_ne_nil spells.nonempty
    rw [isCons] at spells read ⊢
    have digit := spells.digits first List.mem_cons_self
    unfold columnYear?
    split
    rename_i negative unread chosen
    split at chosen
    · rename_i same
      exact absurd (List.cons.inj same).1 (ne_of_isDigit digit (by decide))
    · rename_i same
      exact absurd (List.cons.inj same).1 (ne_of_isDigit digit (by decide))
    · cases chosen
      rw [read, Option.map_some]
      simp only [Bool.false_eq_true, if_false, unsigned]

theorem columnDateTime?_columnText (t : DateTime) :
    columnDateTime? t.columnText.toList = some t.whole := by
  obtain ⟨first, last, oneMonth, months, oneDay, days⟩ := t.date.bounds
  have year {rest : List Char} := columnYear?_columnYearChars first last ('-' :: rest)
    (by rintro _ ⟨⟩; rfl)
  have month {rest : List Char} := field?_padded oneMonth months (by decide) ('-' :: rest)
    (by rintro _ ⟨⟩; rfl)
  have day {rest : List Char} := field?_padded oneDay days (by decide) (' ' :: rest)
    (by rintro _ ⟨⟩; rfl)
  have gap : skipBlank (' ' :: t.clock.secondChars) = t.clock.secondChars := by
    refine skipBlank_of_isDigit (s := t.clock.secondChars) fun c isFirst => ?_
    have spells := Text.spells_padded 2 t.clock.hour
    obtain ⟨digit, others, isCons⟩ := List.exists_cons_of_ne_nil spells.nonempty
    rw [Clock.secondChars, isCons] at isFirst
    rw [isCons] at spells
    obtain rfl := Option.some.inj isFirst
    exact spells.digits _ List.mem_cons_self
  simp [columnDateTime?, DateTime.columnText, year, month, day, mark?, gap,
    columnClock?_secondChars, t.date.of?_self, DateTime.whole]

end Calendar

open Calendar

/-- Nothing is left after a whole text, not even annotations. -/
theorem whole?_end {α : Type} (a : α) : whole? (some (a, [])) = some a := rfl

/-! ## Texts -/

theorem Date.ofText?_text (d : Date) : ofText? d.text = some d := by
  have read : reading? d.text.toList = some (⟨d, none, .unsaid⟩, []) := by
    have date := date?_chars d []
    rw [List.append_nil] at date
    simp [reading?, text, date]
  rw [ofText?, civil?, read, whole?_end]
  rfl

theorem Timestamp.ofText?_text (t : Timestamp) : ofText? t.text = some t := by
  have read : reading? t.text.toList = some (⟨t.utc.date, some t.utc.clock, .utc⟩, []) := by
    have chars : t.text.toList = t.utc.date.chars ++ 'T' :: (t.utc.clock.chars ++ ['Z']) := by
      simp [text, DateTime.text]
    rw [chars]
    simp [reading?, date?_chars, clock?_chars, zone?]
  rw [ofText?, read, whole?_end]
  exact dif_pos t.inBounds

theorem DateTime.ofColumn?_columnText (t : DateTime) : ofColumn? t.columnText = some t.whole := by
  rw [ofColumn?, columnDateTime?_columnText, Option.some_or]

theorem Clock.ofColumn?_columnText (t : Clock) : ofColumn? t.columnText = some t.whole := by
  rw [ofColumn?, columnText, String.toList_ofList, columnClock?_secondChars, Option.some_or]

end Relmap
