import Relmap.Text.Digits

/-!
# Universally unique identifiers

An identifier is kept as its thirty-two hexadecimal digits. It is written in five groups between
hyphens; it is read in that form, without hyphens, between braces or after the `urn:uuid:` mark, in
either case of letters.
-/

namespace Relmap

/-- Thirty-two hexadecimal digits, the most significant first. -/
structure Uuid where
  digits : List (Fin 16)
  length_eq : digits.length = 32
deriving DecidableEq

namespace Uuid

/-- The digits between hyphens, in groups of 8, 4, 4, 4 and 12. -/
def hyphenate (s : List Char) : List Char :=
  s.take 8 ++ '-' :: ((s.drop 8).take 4 ++ '-' :: ((s.drop 12).take 4 ++
    '-' :: ((s.drop 16).take 4 ++ '-' :: s.drop 20)))

/-- The digits as lower-case characters. -/
def digitChars (u : Uuid) : List Char := u.digits.map fun d => Text.hexDigit d.val

/-- The five groups between hyphens. -/
def text (u : Uuid) : String := String.ofList (hyphenate u.digitChars)

/-- A hexadecimal digit of either case. -/
def digit? (c : Char) : Option (Fin 16) := (Text.hexDigit? c).map (Fin.ofNat 16)

/-- Thirty-two digits without hyphens. -/
def ofDigits? (s : List Char) : Option Uuid := do
  let digits ← s.mapM digit?
  if h : digits.length = 32 then some ⟨digits, h⟩ else none

/-- Five groups between hyphens. -/
def ofGroups? (s : List Char) : Option Uuid :=
  let digits := s.filter (· != '-')
  if digits.length = 32 && hyphenate digits == s then ofDigits? digits else none

/-- Reads one of the four forms, told apart by their lengths. -/
def ofChars? (s : List Char) : Option Uuid :=
  match s.length with
  | 32 => ofDigits? s
  | 36 => ofGroups? s
  | 38 => if s.head? == some '\x7b' && s.getLast? == some '\x7d' then ofGroups? ((s.drop 1).take 36)
          else none
  | 45 => if (s.take 9).map Char.toLower == "urn:uuid:".toList then ofGroups? (s.drop 9) else none
  | _ => none

/-- Reads an identifier from a text. -/
def ofText? (s : String) : Option Uuid := ofChars? s.toList

end Uuid
end Relmap
