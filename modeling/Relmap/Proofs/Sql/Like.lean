import Relmap.Compile.Comparison
import Mathlib.Data.List.Forall2
import Mathlib.Data.List.Infix

/-!
# Agreement with a pattern

What `LIKE` says of two texts if it tells upper from lower case and a backslash escapes: `%` stands
for any text and `_` for any one character, unless a backslash is in front of them. Main statement,
`patternItems?_escaped`: in an escaped text every character stands for itself, whatever pattern
follows it, so that no character of the text is read together with the wildcards around it.
-/

namespace Relmap.Sql

/-- A part of a pattern. -/
inductive PatternItem where
  | char (c : Char)
  | anyChar
  | anyText
deriving DecidableEq, Repr

/-- The text is one for which the part can stand. -/
inductive PatternItem.Fits : PatternItem → List Char → Prop
  | char (c : Char) : Fits (.char c) [c]
  | anyChar (c : Char) : Fits .anyChar [c]
  | anyText (t : List Char) : Fits .anyText t

/-- The parts of a pattern. A backslash at its end escapes nothing, and such a text is no pattern. -/
def patternItems? : List Char → Option (List PatternItem)
  | [] => some []
  | ['\\'] => none
  | '\\' :: c :: rest => (patternItems? rest).map (.char c :: ·)
  | '%' :: rest => (patternItems? rest).map (.anyText :: ·)
  | '_' :: rest => (patternItems? rest).map (.anyChar :: ·)
  | c :: rest => (patternItems? rest).map (.char c :: ·)

/-- The text agrees with the pattern: it divides into texts for the parts, in their order. -/
def Likes (pattern s : String) : Prop :=
  ∃ items parts, patternItems? pattern.toList = some items ∧
    List.Forall₂ PatternItem.Fits items parts ∧ parts.flatten = s.toList

/-! ## Matching -/

/-- Looks for a division of the text: a part for any text tries every rest of it. -/
def agrees : List PatternItem → List Char → Bool
  | [], s => s.isEmpty
  | .char c :: rest, d :: s => c == d && agrees rest s
  | .anyChar :: rest, _ :: s => agrees rest s
  | .char _ :: _, [] | .anyChar :: _, [] => false
  | .anyText :: rest, s => s.tails.any (agrees rest)

section

variable {items : List PatternItem} {s : List Char}

theorem agrees_anyText :
    agrees (.anyText :: items) s = true ↔ ∃ t rest, t ++ rest = s ∧ agrees items rest = true := by
  simp only [agrees, List.any_eq_true, List.mem_tails]
  constructor
  · rintro ⟨rest, ⟨t, whole⟩, agree⟩
    exact ⟨t, rest, whole, agree⟩
  · rintro ⟨t, rest, whole, agree⟩
    exact ⟨rest, ⟨t, whole⟩, agree⟩

/-- A division is found just if there is one. -/
theorem agrees_iff :
    agrees items s = true ↔ ∃ parts, List.Forall₂ PatternItem.Fits items parts ∧ parts.flatten = s := by
  induction items generalizing s with
  | nil =>
    simp only [agrees, List.isEmpty_iff, List.forall₂_nil_left_iff, exists_eq_left, List.flatten_nil]
    exact eq_comm
  | cons item rest ih =>
    simp only [List.forall₂_cons_left_iff]
    constructor
    · intro agree
      cases item with
      | char c =>
        cases s with
        | nil => simp [agrees] at agree
        | cons d s =>
          simp only [agrees, Bool.and_eq_true, beq_iff_eq] at agree
          obtain ⟨rfl, agree⟩ := agree
          obtain ⟨parts, each, rfl⟩ := ih.mp agree
          exact ⟨_, ⟨[c], parts, .char c, each, rfl⟩, rfl⟩
      | anyChar =>
        cases s with
        | nil => simp [agrees] at agree
        | cons d s =>
          obtain ⟨parts, each, rfl⟩ := ih.mp agree
          exact ⟨_, ⟨[d], parts, .anyChar d, each, rfl⟩, rfl⟩
      | anyText =>
        obtain ⟨t, _, rfl, later⟩ := agrees_anyText.mp agree
        obtain ⟨parts, each, rfl⟩ := ih.mp later
        exact ⟨_, ⟨t, parts, .anyText t, each, rfl⟩, rfl⟩
    · rintro ⟨_, ⟨first, parts, fits, each, rfl⟩, rfl⟩
      have agree : agrees rest parts.flatten = true := ih.mpr ⟨parts, each, rfl⟩
      cases fits with
      | char c => simp [agrees, agree]
      | anyChar c => simp [agrees, agree]
      | anyText => exact agrees_anyText.mpr ⟨first, parts.flatten, rfl, agree⟩

/-- Characters that stand for themselves are at the front of a text, and the rest agrees with what
follows them. -/
theorem agrees_chars (t : List Char) :
    agrees (t.map .char ++ items) s = true ↔ ∃ rest, t ++ rest = s ∧ agrees items rest = true := by
  induction t generalizing s with
  | nil => simp
  | cons c t ih =>
    cases s with
    | nil => simp [agrees]
    | cons d s =>
      simp only [List.map_cons, List.cons_append, agrees, Bool.and_eq_true, beq_iff_eq, ih,
        List.cons.injEq]
      constructor
      · rintro ⟨rfl, rest, rfl, agree⟩
        exact ⟨rest, ⟨rfl, rfl⟩, agree⟩
      · rintro ⟨rest, ⟨rfl, rfl⟩, agree⟩
        exact ⟨rfl, rest, rfl, agree⟩

theorem agrees_text (t : List Char) : agrees (t.map .char) s = true ↔ t = s := by
  rw [← List.append_nil (t.map _), agrees_chars]
  simp [agrees]

end

/-- Agreement is found by matching. -/
theorem likes_iff {pattern s : String} :
    Likes pattern s ↔ (patternItems? pattern.toList).any (agrees · s.toList) = true := by
  unfold Likes
  cases patternItems? pattern.toList with
  | none => simp
  | some items => simp [agrees_iff]

instance (pattern s : String) : Decidable (Likes pattern s) := decidable_of_iff _ likes_iff.symm

/-! ## Escaped texts -/

/-- The characters of a text with a backslash before those that a pattern gives a meaning. -/
def escaped (t : List Char) : List Char :=
  t.flatMap fun c => if c == '%' || c == '_' || c == '\\' then ['\\', c] else [c]

theorem toList_escapePattern (t : String) : (escapePattern t).toList = escaped t.toList := by
  rw [escapePattern, String.toList_ofList, escaped]

/-- In an escaped text every character stands for itself. -/
theorem patternItems?_escaped (t rest : List Char) :
    patternItems? (escaped t ++ rest) = (patternItems? rest).map (t.map .char ++ ·) := by
  induction t with
  | nil => simp [escaped]
  | cons c t ih =>
    have first : escaped (c :: t) ++ rest =
        (if c == '%' || c == '_' || c == '\\' then ['\\', c] else [c]) ++ (escaped t ++ rest) := by
      simp [escaped]
    rw [first]
    by_cases special : (c == '%' || c == '_' || c == '\\') = true
    · rw [if_pos special, List.cons_append, List.cons_append, patternItems?, List.nil_append, ih,
        Option.map_map]
      rfl
    · rw [if_neg special, List.cons_append, List.nil_append]
      simp only [Bool.or_eq_true, beq_iff_eq, not_or] at special
      obtain ⟨⟨notPercent, notUnderscore⟩, notBackslash⟩ := special
      rw [patternItems?, ih, Option.map_map]
      · rfl
      all_goals simp_all

/-! ## Patterns for a text -/

section

variable (t s : String)

/-- The text itself. -/
theorem likes_escapePattern : Likes (escapePattern t) s ↔ s = t := by
  have items : patternItems? (escapePattern t).toList = some (t.toList.map .char) := by
    rw [toList_escapePattern, ← List.append_nil (escaped t.toList), patternItems?_escaped]
    simp [patternItems?]
  rw [likes_iff, items, Option.any_some, agrees_text, String.toList_inj]
  exact eq_comm

/-- The texts that start with the text. -/
theorem likes_startsWith : Likes (patternOf .startsWith t) s ↔ t.toList <+: s.toList := by
  have items : patternItems? (patternOf .startsWith t).toList =
      some (t.toList.map .char ++ [.anyText]) := by
    show patternItems? (escapePattern t ++ "%").toList = _
    rw [String.toList_append, toList_escapePattern, patternItems?_escaped]
    rfl
  rw [likes_iff, items, Option.any_some, agrees_chars]
  simp [agrees, List.IsPrefix]

/-- The texts that end with the text. -/
theorem likes_endsWith : Likes (patternOf .endsWith t) s ↔ t.toList <:+ s.toList := by
  have items : patternItems? (patternOf .endsWith t).toList =
      some (.anyText :: t.toList.map .char) := by
    show patternItems? ("%" ++ escapePattern t).toList = _
    rw [String.toList_append, toList_escapePattern, ← List.append_nil (escaped t.toList)]
    show (patternItems? (escaped t.toList ++ [])).map _ = _
    rw [patternItems?_escaped]
    simp [patternItems?]
  rw [likes_iff, items, Option.any_some, agrees_anyText]
  simp [agrees_text, List.IsSuffix]

/-- The texts that the text is part of. -/
theorem likes_contains : Likes (patternOf .contains t) s ↔ t.toList <:+: s.toList := by
  have items : patternItems? (patternOf .contains t).toList =
      some (.anyText :: (t.toList.map .char ++ [.anyText])) := by
    show patternItems? ("%" ++ escapePattern t ++ "%").toList = _
    rw [String.toList_append, String.toList_append, toList_escapePattern, List.append_assoc]
    show (patternItems? (escaped t.toList ++ ['%'])).map _ = _
    rw [patternItems?_escaped]
    rfl
  rw [likes_iff, items, Option.any_some, agrees_anyText]
  simp [agrees_chars, agrees, List.IsInfix]

end

example : Likes "50\\%%" "50% off" ∧ ¬Likes "50\\%%" "500" := by decide

end Relmap.Sql
