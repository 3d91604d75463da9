import Relmap.Calendar.Pattern
import Relmap.Json.Reader
import Relmap.Keyed
import Relmap.Uuid

/-!
# Values

The values that rows hold and statements bind, in the form that an application uses or in the form
that a database stores.
-/

namespace Relmap

/-- A value of a column or of a parameter. -/
inductive Value where
  | null
  | bool (value : Bool)
  | int (value : Int64)
  | real (value : Binary64)
  | text (value : String)
  | bytes (value : List UInt8)
  | uuid (value : Uuid)
  | json (value : Json)
  | date (value : Date)
  | time (value : Clock)
  | dateTime (value : DateTime)
  | timestamp (value : Timestamp)
  | list (items : List Value)

/-- The values of a record by column. -/
abbrev Row := Keyed Value

namespace Value

/-- The kinds of values. -/
inductive Kind where
  | null | bool | int | real | text | bytes | uuid | json
  | date | time | dateTime | timestamp | list
deriving DecidableEq, Repr

/-- The name of a kind. -/
def Kind.name : Kind → String
  | .null => "Null"
  | .bool => "Bool"
  | .int => "I64"
  | .real => "F64"
  | .text => "String"
  | .bytes => "Bytes"
  | .uuid => "Uuid"
  | .json => "Json"
  | .date => "Date"
  | .time => "Time"
  | .dateTime => "DateTime"
  | .timestamp => "Timestamp"
  | .list => "List"

/-- The kind of a value. -/
def kind : Value → Kind
  | .null => .null
  | .bool _ => .bool
  | .int _ => .int
  | .real _ => .real
  | .text _ => .text
  | .bytes _ => .bytes
  | .uuid _ => .uuid
  | .json _ => .json
  | .date _ => .date
  | .time _ => .time
  | .dateTime _ => .dateTime
  | .timestamp _ => .timestamp
  | .list _ => .list

def isNull : Value → Bool
  | .null => true
  | _ => false

def isList : Value → Bool
  | .list _ => true
  | _ => false

/-- The text of a text value. -/
def text? : Value → Option String
  | .text s => some s
  | _ => none

/-- The integer of an integer value. -/
def int? : Value → Option Int64
  | .int n => some n
  | _ => none

mutual

/-- The value as structured data: bytes as an array of numbers, identifiers, dates and times as
their texts. -/
def toJson : Value → Json
  | .null => .null
  | .bool b => .bool b
  | .int n => .int n.toInt
  | .real x => Json.ofReal x
  | .text s => .str s
  | .bytes data => .arr (data.map fun b => .int b.toNat)
  | .uuid u => .str u.text
  | .json j => j
  | .date d => .str d.text
  | .time t => .str t.text
  | .dateTime t => .str t.text
  | .timestamp t => .str t.text
  | .list items => .arr (toJsonItems items)

/-- `toJson` on the items of a list. -/
def toJsonItems : List Value → List Json
  | [] => []
  | item :: rest => item.toJson :: toJsonItems rest

end

/-- The bytes of a text in UTF-8. -/
def utf8 (s : String) : List UInt8 := s.toUTF8.toList

/-- The text of bytes that are valid UTF-8. -/
def ofUtf8? (bytes : List UInt8) : Option String := String.fromUTF8? ⟨bytes.toArray⟩

end Value
end Relmap
