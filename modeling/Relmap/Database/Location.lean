import Relmap.Database.Basic

/-!
# Locations

A database is located by a URL, whose scheme names the kind of database.
-/

namespace Relmap

/-- Spaces and control characters, which do not count at the ends of a URL. -/
def isFill (c : Char) : Bool := c.toNat ≤ 0x20

/-- The characters of a URL that count: nothing that fills its ends, and no tab or line break. -/
def urlChars (url : String) : List Char :=
  let core := ((url.toList.dropWhile isFill).reverse.dropWhile isFill).reverse
  core.filter fun c => !(c == '\t' || c == '\n' || c == '\r')

/-- The characters of a scheme after its first letter. -/
def isSchemeChar (c : Char) : Bool := c.isAlphanum || c == '+' || c == '-' || c == '.'

/-- The scheme of a URL in lower case: a letter and more scheme characters in front of a colon. -/
def scheme? (url : String) : Option String :=
  match urlChars url with
  | [] => none
  | c :: rest =>
    if c.isAlpha && (rest.dropWhile isSchemeChar).head? == some ':' then
      some (String.ofList ((c :: rest.takeWhile isSchemeChar).map Char.toLower))
    else none

/-- The scheme of a URL that locates what the holder asks for. -/
def requireScheme (holder url : String) : Except Error String :=
  match scheme? url with
  | some scheme => .ok scheme
  | none => .error (.configuration (.invalidUrl holder url "relative URL without a base"))

/-- What an SQLite database supports. -/
def Capability.sqlite : Capability := ⟨true, true⟩

/-- The capability of the SQLite database at a URL. -/
def Capability.atSqlite (url : String) : Except Error Capability :=
  match requireScheme "sqlite" url with
  | .ok "sqlite" => .ok .sqlite
  | .ok _ => .error (.configuration (.otherScheme url))
  | .error e => .error e

/-- The database of described tables at a URL. -/
def Database.connect (url : String) (described : List (Except Error Metadata)) :
    Except Error Database :=
  match requireScheme "database" url with
  | .ok "sqlite" => do Database.build "Sqlite" (← Capability.atSqlite url) described
  | .ok scheme => .error (.configuration (.unsupportedScheme scheme url))
  | .error e => .error e

example : scheme? "SQLite::memory:" = some "sqlite" ∧ scheme? "sqlite" = none := by decide +kernel

end Relmap
