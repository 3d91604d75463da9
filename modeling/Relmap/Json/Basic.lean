import Relmap.Number.Integer
import Relmap.Number.Decimal

/-!
# Structured data

JSON documents. An object keeps its members as they were written, repeated keys included;
`Json.canonical` sorts the members by key and lets the last of equal keys win. `Json.text` writes a
document without spaces.
-/

namespace Relmap

/-- A JSON document. -/
inductive Json where
  | null
  | bool (value : Bool)
  | int (value : Int)
  | real (value : Binary64)
  | str (value : String)
  | arr (items : List Json)
  | obj (members : List (String × Json))

namespace Json

/-- Puts a member into a list sorted by key, in place of a member with its key. -/
def insertSorted (key : String) (value : Json) : List (String × Json) → List (String × Json)
  | [] => [(key, value)]
  | (other, old) :: rest =>
    if key = other then (key, value) :: rest
    else if key < other then (key, value) :: (other, old) :: rest
    else (other, old) :: insertSorted key value rest

/-- Sorts members by key; of equal keys the last one is kept. -/
def sortMembers (members : List (String × Json)) : List (String × Json) :=
  members.foldl (fun sorted member => insertSorted member.1 member.2 sorted) []

mutual

/-- The document with every object sorted and free of repeated keys. -/
def canonical : Json → Json
  | .arr items => .arr (canonicalItems items)
  | .obj members => .obj (sortMembers (canonicalMembers members))
  | other => other

/-- `canonical` on the items of an array. -/
def canonicalItems : List Json → List Json
  | [] => []
  | item :: rest => item.canonical :: canonicalItems rest

/-- `canonical` on the values of members. -/
def canonicalMembers : List (String × Json) → List (String × Json)
  | [] => []
  | (key, value) :: rest => (key, value.canonical) :: canonicalMembers rest

end

/-- One character of a written string. -/
def escaped (c : Char) : List Char :=
  match c with
  | '"' => ['\\', '"']
  | '\\' => ['\\', '\\']
  | '\x08' => ['\\', 'b']
  | '\x0c' => ['\\', 'f']
  | '\n' => ['\\', 'n']
  | '\r' => ['\\', 'r']
  | '\t' => ['\\', 't']
  | c =>
    if c.toNat < 0x20 then
      ['\\', 'u', '0', '0', Text.hexDigit (c.toNat / 16), Text.hexDigit (c.toNat % 16)]
    else [c]

/-- A written string, between quotes. -/
def quoted (s : String) : List Char :=
  '"' :: (s.toList.flatMap escaped ++ ['"'])

mutual

/-- The characters of a written document. -/
def chars : Json → List Char
  | .null => ['n', 'u', 'l', 'l']
  | .bool true => ['t', 'r', 'u', 'e']
  | .bool false => ['f', 'a', 'l', 's', 'e']
  | .int value => (integerText value).toList
  | .real value => value.compact.toList
  | .str value => quoted value
  | .arr items => '[' :: (itemChars items ++ [']'])
  | .obj members => '\x7b' :: (memberChars members ++ ['\x7d'])

/-- Items between commas. -/
def itemChars : List Json → List Char
  | [] => []
  | [item] => item.chars
  | item :: rest => item.chars ++ ',' :: itemChars rest

/-- Members between commas. -/
def memberChars : List (String × Json) → List Char
  | [] => []
  | [(key, value)] => quoted key ++ ':' :: value.chars
  | (key, value) :: rest => quoted key ++ ':' :: value.chars ++ ',' :: memberChars rest

end

/-- The document without spaces. -/
def text (j : Json) : String := String.ofList j.chars

/-- A number of structured data, which has no infinities and no NaN: these become null. -/
def ofReal (x : Binary64) : Json := if x.isFinite then .real x else .null

example : (Json.obj [("b", .int 1), ("a", .real ⟨0x3ff0000000000000⟩), ("b", .null)]).canonical.text
    = "\x7b\"a\":1.0,\"b\":null\x7d" := by decide +kernel

end Json
end Relmap
