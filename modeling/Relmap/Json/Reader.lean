import Relmap.Json.Number

/-!
# Reading structured data

`Json.read?` reads a whole text as one document, with white space around its parts. Arrays and
objects nest at most 127 deep.
-/

namespace Relmap.Json

/-- The white space between the parts of a document. -/
def isSpace (c : Char) : Bool := c == ' ' || c == '\t' || c == '\n' || c == '\r'

/-- The text without the white space at its start. -/
def skipSpace (s : List Char) : List Char := s.dropWhile isSpace

/-- Four hexadecimal digits. -/
def codeUnit? : List Char → Option (Nat × List Char)
  | a :: b :: c :: d :: rest => do
    let a ← Text.hexDigit? a
    let b ← Text.hexDigit? b
    let c ← Text.hexDigit? c
    let d ← Text.hexDigit? d
    pure (((a * 16 + b) * 16 + c) * 16 + d, rest)
  | _ => none

/-- The character of an escape by number: one code unit, or two that form a surrogate pair. A
surrogate on its own is refused. -/
def numbered? (s : List Char) : Option (Char × List Char) := do
  let (unit, rest) ← codeUnit? s
  if 0xD800 ≤ unit && unit < 0xDC00 then
    match rest with
    | '\\' :: 'u' :: rest =>
      let (second, rest) ← codeUnit? rest
      if 0xDC00 ≤ second && second < 0xE000 then
        pure (Char.ofNat (0x10000 + (unit - 0xD800) * 0x400 + (second - 0xDC00)), rest)
      else none
    | _ => none
  else if 0xDC00 ≤ unit && unit < 0xE000 then none
  else pure (Char.ofNat unit, rest)

/-- The character that a letter after a backslash stands for. -/
def unescape? : Char → Option Char
  | '"' => some '"'
  | '\\' => some '\\'
  | '/' => some '/'
  | 'b' => some '\x08'
  | 'f' => some '\x0c'
  | 'n' => some '\n'
  | 'r' => some '\r'
  | 't' => some '\t'
  | _ => none

/-- Reads a string after its opening quote. Control characters are refused. The fuel bounds the
number of characters read. -/
def stringTail? : Nat → List Char → List Char → Option (String × List Char)
  | 0, _, _ => none
  | _ + 1, read, '"' :: rest => some (String.ofList read.reverse, rest)
  | fuel + 1, read, '\\' :: 'u' :: rest => do
    let (c, rest) ← numbered? rest
    stringTail? fuel (c :: read) rest
  | fuel + 1, read, '\\' :: letter :: rest => do
    stringTail? fuel ((← unescape? letter) :: read) rest
  | _ + 1, _, ['\\'] => none
  | fuel + 1, read, c :: rest => if c.toNat < 0x20 then none else stringTail? fuel (c :: read) rest
  | _ + 1, _, [] => none

/-- Reads a string with its quotes. -/
def string? (fuel : Nat) : List Char → Option (String × List Char)
  | '"' :: rest => stringTail? fuel [] rest
  | _ => none

/-- How deep arrays and objects nest. -/
def depthLimit : Nat := 127

mutual

/-- Reads one document after white space. `depth` counts the levels that may still be opened; the
fuel bounds the length of a chain of calls, of which every third reads a character. -/
def value? : Nat → Nat → List Char → Option (Json × List Char)
  | 0, _, _ => none
  | fuel + 1, depth, s =>
    match skipSpace s with
    | 'n' :: 'u' :: 'l' :: 'l' :: rest => some (.null, rest)
    | 't' :: 'r' :: 'u' :: 'e' :: rest => some (.bool true, rest)
    | 'f' :: 'a' :: 'l' :: 's' :: 'e' :: rest => some (.bool false, rest)
    | '"' :: rest => (stringTail? fuel [] rest).map fun (text, rest) => (.str text, rest)
    | '[' :: rest =>
      match depth with
      | 0 => none
      | depth + 1 =>
        match skipSpace rest with
        | ']' :: rest => some (.arr [], rest)
        | rest => (items? fuel depth rest).map fun (items, rest) => (.arr items, rest)
    | '\x7b' :: rest =>
      match depth with
      | 0 => none
      | depth + 1 =>
        match skipSpace rest with
        | '\x7d' :: rest => some (.obj [], rest)
        | rest => (members? fuel depth rest).map fun (members, rest) => (.obj members, rest)
    | rest => number? rest

/-- Reads the items of an array up to its closing bracket. -/
def items? : Nat → Nat → List Char → Option (List Json × List Char)
  | 0, _, _ => none
  | fuel + 1, depth, s => do
    let (item, rest) ← value? fuel depth s
    match skipSpace rest with
    | ']' :: rest => pure ([item], rest)
    | ',' :: rest =>
      let (items, rest) ← items? fuel depth rest
      pure (item :: items, rest)
    | _ => none

/-- Reads the members of an object up to its closing brace. -/
def members? : Nat → Nat → List Char → Option (List (String × Json) × List Char)
  | 0, _, _ => none
  | fuel + 1, depth, s => do
    let (key, rest) ← string? fuel (skipSpace s)
    match skipSpace rest with
    | ':' :: rest =>
      let (value, rest) ← value? fuel depth rest
      match skipSpace rest with
      | '\x7d' :: rest => pure ([(key, value)], rest)
      | ',' :: rest =>
        let (members, rest) ← members? fuel depth rest
        pure ((key, value) :: members, rest)
      | _ => none
    | _ => none

end

/-- Reads a text that holds exactly one document. -/
def read? (s : String) : Option Json := do
  let chars := s.toList
  let (value, rest) ← value? (3 * chars.length + 3) depthLimit chars
  if (skipSpace rest).isEmpty then pure value else none

/-- Reads a document and sorts its objects. -/
def readCanonical? (s : String) : Option Json := (read? s).map canonical

end Relmap.Json
