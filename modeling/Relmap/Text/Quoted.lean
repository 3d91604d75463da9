import Relmap.Text.Extending
import Relmap.Text.Printable

/-!
# Quoted names

The two ways in which names appear in messages: a list of names between double quotes, and a list
of string literals with escapes.
-/

namespace Relmap.Text

/-- The names between double quotes and separated by commas. No name at all gives `""`. -/
def quotedNames (names : List String) : String :=
  "\"" ++ "\", \"".intercalate names ++ "\""

/-- One character of a string literal. One without a glyph of its own is written by its number. -/
def escaped (c : Char) : List Char :=
  match c with
  | '"' => ['\\', '"']
  | '\\' => ['\\', '\\']
  | '\n' => ['\\', 'n']
  | '\r' => ['\\', 'r']
  | '\t' => ['\\', 't']
  | '\x00' => ['\\', '0']
  | c =>
    if isPrintable c && !isExtending c then [c]
    else ['\\', 'u', '\x7b'] ++ Nat.toDigits 16 c.toNat ++ ['\x7d']

/-- A text as a string literal. -/
def literal (s : String) : String :=
  "\"" ++ String.ofList (s.toList.flatMap escaped) ++ "\""

/-- A list of texts as string literals between brackets. -/
def literals (names : List String) : String :=
  "[" ++ ", ".intercalate (names.map literal) ++ "]"

end Relmap.Text
