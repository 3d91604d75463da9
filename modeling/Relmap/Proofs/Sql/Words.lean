import Relmap.Proofs.Sql.Items
import Relmap.Proofs.Text.Digits
import Relmap.Sql.Render

/-!
# Words read as items

What it is that a text is read as certain items, whatever stands around it. Texts are put together
with marks, blanks and parentheses between them, and a word is read when it ends: main statements,
`reads_keyword`, `reads_relation` and, for names and numbers, `reads_plain`.
-/

namespace Relmap.Sql

/-! ## Texts that are read as items -/

/-- The characters of fragments in named form. -/
def Fragment.chars : Fragment → List Char
  | .text s => s.toList
  | .placeholder name => ':' :: name.toList
  | _ => []

def charsOf (fragments : List Fragment) : List Char := fragments.flatMap Fragment.chars

/-- A text at whose start a word ends. -/
def Closed (s : List Char) : Prop := ∀ c ∈ s.head?, (Mark.of? c).isSome = true

/-- A text is read as the items, whatever is before it and if no word goes on after it. -/
def Reads (s : List Char) (items : List Item) : Prop :=
  ∀ (before : List Item) (outer : List (List Item)) (rest : List Char), Closed rest →
    Reader.run ⟨[], before, outer⟩ (s ++ rest) = Reader.run ⟨[], before ++ items, outer⟩ rest

theorem closed_nil : Closed [] := nofun

theorem closed_of_mark {c : Char} (mark : (Mark.of? c).isSome = true) (s : List Char) :
    Closed (c :: s) := by
  rintro _ ⟨⟩
  exact mark

theorem Closed.append {s t : List Char} (first : Closed s) (second : Closed t) :
    Closed (s ++ t) := by
  cases s with
  | nil => exact second
  | cons c s => exact first

theorem reads_nil : Reads [] [] := by
  intro before outer rest _
  rw [List.nil_append, List.append_nil]

theorem Reads.append {s t : List Char} {items others : List Item} (first : Reads s items)
    (second : Reads t others) (closed : Closed t) : Reads (s ++ t) (items ++ others) := by
  intro before outer rest after
  rw [List.append_assoc, first before outer _ (closed.append after), second _ outer rest after,
    List.append_assoc]

/-- A mark in front of a text does what it does on its own. -/
theorem run_mark {c : Char} {m : Mark} (mark : Mark.of? c = some m) (before : List Item)
    (outer : List (List Item)) (s : List Char) :
    Reader.run ⟨[], before, outer⟩ (c :: s) = Reader.run (Reader.mark ⟨[], before, outer⟩ m) s := by
  rw [Reader.run, List.foldl_cons, Reader.step, mark]
  rfl

theorem Reads.blank {s : List Char} {items : List Item} (reads : Reads s items) :
    Reads (' ' :: s) items := by
  intro before outer rest after
  rw [List.cons_append, run_mark rfl]
  exact reads before outer rest after

/-- Marks that stand for themselves. -/
theorem Reads.mark {c : Char} {m : Mark} (mark : Mark.of? c = some m)
    (pushed : ∀ r, Reader.mark r m = r.push (.token (.mark m))) {s : List Char}
    {items : List Item} (reads : Reads s items) : Reads (c :: s) (.token (.mark m) :: items) := by
  intro before outer rest after
  rw [List.cons_append, run_mark mark, pushed]
  refine (reads _ outer rest after).trans ?_
  rw [List.append_assoc]
  rfl

/-- Texts with a blank between them. -/
theorem Reads.spaced {s t : List Char} {items others : List Item} (first : Reads s items)
    (second : Reads t others) : Reads (s ++ ' ' :: t) (items ++ others) :=
  first.append second.blank (closed_of_mark rfl t)

theorem Reads.grouped {s : List Char} {items : List Item} (reads : Reads s items) :
    Reads ('(' :: (s ++ [')'])) [enclosed items] := by
  intro before outer rest _
  -- The opening mark puts what is before aside, and the closing one takes it up again.
  have opened : Reader.run ⟨[], before, outer⟩ ('(' :: (s ++ [')']) ++ rest) =
      Reader.run ⟨[], [], before :: outer⟩ (s ++ ')' :: rest) := by
    rw [List.cons_append, run_mark rfl, List.append_assoc]
    rfl
  rw [opened, reads [] _ _ (closed_of_mark rfl rest), run_mark rfl]
  rfl

theorem foldl_word {s : List Char} (unmarked : ∀ c ∈ s, Mark.of? c = none) (word : List Char)
    (before : List Item) (outer : List (List Item)) :
    s.foldl Reader.step ⟨word, before, outer⟩ = ⟨word ++ s, before, outer⟩ := by
  induction s generalizing word with
  | nil => rw [List.foldl_nil, List.append_nil]
  | cons c rest ih =>
    obtain ⟨first, later⟩ := List.forall_mem_cons.mp unmarked
    rw [List.foldl_cons, Reader.step, first, ih later, List.append_assoc]
    rfl

/-- A word ends in front of a mark and at the end. -/
theorem run_flush (r : Reader) {rest : List Char} (closed : Closed rest) :
    r.run rest = r.flush.run rest := by
  have twice : r.flush.flush = r.flush := by
    unfold Reader.flush
    split <;> rfl
  cases rest with
  | nil => exact twice.symm
  | cons c rest =>
    obtain ⟨m, mark⟩ := Option.isSome_iff_exists.mp (closed c rfl)
    simp only [Reader.run, List.foldl_cons, Reader.step, mark, twice]

theorem reads_word {s : List Char} (nonempty : s ≠ [])
    (unmarked : ∀ c ∈ s, Mark.of? c = none) :
    Reads s [.token (.ofWord (String.ofList s))] := by
  intro before outer rest after
  have word : Reader.run ⟨[], before, outer⟩ (s ++ rest) = Reader.run ⟨s, before, outer⟩ rest := by
    rw [Reader.run, List.foldl_append, foldl_word unmarked]
    rfl
  have flushed : Reader.flush ⟨s, before, outer⟩ =
      ⟨[], before ++ [.token (.ofWord (String.ofList s))], outer⟩ :=
    if_neg (by simpa using nonempty)
  rw [word, run_flush _ after, flushed]

/-! ## Words -/

theorem ofText?_text (k : Keyword) : Keyword.ofText? k.text = some k := by
  cases k <;> decide

theorem unmarked_of_all {s : List Char} (all : s.all (fun c => (Mark.of? c).isNone) = true) :
    ∀ c ∈ s, Mark.of? c = none :=
  fun c member => Option.isNone_iff_eq_none.mp (List.all_eq_true.mp all c member)

theorem reads_keyword (k : Keyword) : Reads k.text.toList [keyword k] := by
  have word : Token.ofWord k.text = .keyword k := by
    rw [Token.ofWord, ofText?_text]
  have nonempty : k.text.toList ≠ [] := by cases k <;> decide
  have unmarked := unmarked_of_all (s := k.text.toList) (by cases k <;> rfl)
  have reads := reads_word nonempty unmarked
  rwa [String.ofList_toList, word] at reads

theorem reads_relation (r : Relation) : Reads r.symbol.toList [.token (.relation r)] := by
  have word : Token.ofWord r.symbol = .relation r := by cases r <;> decide
  have nonempty : r.symbol.toList ≠ [] := by cases r <;> decide
  have unmarked := unmarked_of_all (s := r.symbol.toList) (by cases r <;> rfl)
  have reads := reads_word nonempty unmarked
  rwa [String.ofList_toList, word] at reads

theorem unmarked_of_isNameChar {c : Char} (letter : isNameChar c = true) :
    Mark.of? c = none := by
  unfold Mark.of?
  split
  all_goals first
    | rfl
    | cases letter

/-- A relation is written in no letters. -/
theorem relation_ofText?_eq_none {s : String} (nonempty : s.toList ≠ [])
    (letters : ∀ c ∈ s.toList, isNameChar c = true) : Relation.ofText? s = none := by
  refine List.find?_eq_none.mpr fun r _ same => ?_
  obtain rfl : r.symbol = s := beq_iff_eq.mp same
  cases r <;> exact absurd (letters _ List.mem_cons_self) (by decide)

theorem reads_plain {s : String} (plain : isPlain s = true) : Reads s.toList [name s] := by
  simp only [isPlain, Bool.and_eq_true, Bool.not_eq_true', List.isEmpty_eq_false_iff,
    List.all_eq_true, Option.isNone_iff_eq_none] at plain
  obtain ⟨⟨nonempty, letters⟩, word⟩ := plain
  have named : Token.ofWord s = .name s := by
    rw [Token.ofWord, word, relation_ofText?_eq_none nonempty letters]
  have reads := reads_word nonempty fun c member => unmarked_of_isNameChar (letters c member)
  rwa [String.ofList_toList, named] at reads

theorem toUpper_of_other {c : Char} (other : c.isAlpha = false) : c.toUpper = c := by
  refine dif_neg fun lower => ?_
  have isLower : c.isLower = true :=
    Bool.and_eq_true_iff.mpr ⟨decide_eq_true lower.1, decide_eq_true lower.2⟩
  have notLower : c.isLower = false := (Bool.or_eq_false_iff.mp other).2
  rw [isLower] at notLower
  cases notLower

theorem isAlpha_of_isDigit {c : Char} (digit : c.isDigit = true) : c.isAlpha = false := by
  have most : c.val ≤ '9'.val := of_decide_eq_true (Bool.and_eq_true_iff.mp digit).2
  have upper : ¬ 'A'.val ≤ c.val := fun least => absurd (UInt32.le_trans least most) (by decide)
  have lower : ¬ 'a'.val ≤ c.val := fun least => absurd (UInt32.le_trans least most) (by decide)
  exact Bool.or_eq_false_iff.mpr ⟨decide_eq_false fun bounds => upper bounds.1,
    Bool.and_eq_false_iff.mpr (.inl (decide_eq_false lower))⟩

/-- A word with another character than letters is no keyword. -/
theorem ofText?_eq_none {s : String} {c : Char} (member : c ∈ s.toList)
    (other : c.isAlpha = false) : Keyword.ofText? s = none := by
  refine List.find?_eq_none.mpr fun k _ same => ?_
  have letters : k.text.toList.all Char.isAlpha = true := by cases k <;> rfl
  have inKeyword : c ∈ k.text.toList := by
    rw [beq_iff_eq.mp same, ← toUpper_of_other other]
    exact List.mem_map_of_mem member
  have letter := List.all_eq_true.mp letters c inKeyword
  rw [other] at letter
  cases letter

theorem isPlain_number (n : Nat) : isPlain (toString n) = true := by
  have spells := Text.spells_decimal n
  have digits : (toString n).toList = Text.decimal n := Nat.toList_repr
  obtain ⟨first, others, isCons⟩ := List.exists_cons_of_ne_nil spells.nonempty
  have member : first ∈ Text.decimal n := by
    rw [isCons]
    exact List.mem_cons_self
  have noKeyword : Keyword.ofText? (toString n) = none :=
    ofText?_eq_none (digits.symm ▸ member) (isAlpha_of_isDigit (spells.digits first member))
  simp only [isPlain, digits, noKeyword, Bool.and_eq_true, Bool.not_eq_true',
    List.isEmpty_eq_false_iff, List.all_eq_true, Option.isNone_none, and_true]
  refine ⟨spells.nonempty, fun c member => ?_⟩
  simp [isNameChar, Char.isAlphanum, spells.digits c member]

end Relmap.Sql
