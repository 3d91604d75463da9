import Relmap.Text.Ranges

/-!
# White space

The characters of the Unicode property White_Space, and the trimming of a text on both sides.
-/

namespace Relmap.Text

/-- The white-space characters as closed ranges of code points, ascending and apart. -/
def blankRanges : List (Nat × Nat) :=
  [(0x09, 0x0D), (0x20, 0x20), (0x85, 0x85), (0xA0, 0xA0), (0x1680, 0x1680), (0x2000, 0x200A),
   (0x2028, 0x2029), (0x202F, 0x202F), (0x205F, 0x205F), (0x3000, 0x3000)]

/-- A white-space character of Unicode. -/
def isBlank (c : Char) : Bool := inRanges blankRanges c.toNat

/-- The six characters that ASCII calls white space, less the vertical tab. -/
def isAsciiBlank (c : Char) : Bool :=
  c == ' ' || c == '\t' || c == '\n' || c == '\x0c' || c == '\r'

/-- The text without the white space at both of its ends. -/
def trim (s : List Char) : List Char :=
  ((s.dropWhile isBlank).reverse.dropWhile isBlank).reverse

example : isBlank 'a' = false ∧ isBlank '\u200b' = false := by decide

end Relmap.Text
