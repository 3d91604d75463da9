import Relmap.Text.Digits
import Relmap.Text.Parts

/-!
# Annotations of times

What may follow a date or a time in brackets: first a time zone, by its name or its offset, then
remarks, each a key with values. An exclamation mark demands that an annotation is obeyed, which is
refused for a remark. No annotation changes the date or the time in front of it, and a time zone
need not exist.
-/

namespace Relmap.Calendar

/-- A character with which a component of the name of a time zone starts. -/
def isZoneLead (c : Char) : Bool := c.isAlpha || c == '_' || c == '.'

/-- A component of the name of a time zone. -/
def isZonePart : List Char → Bool
  | [] => false
  | first :: rest =>
    isZoneLead first && rest.all fun c => isZoneLead c || c.isDigit || c == '+' || c == '-'

/-- The name of a time zone, with slashes between its components. -/
def isZoneName (s : List Char) : Bool := (Text.parts '/' s).all isZonePart

/-- Two digits of a number up to a bound. -/
def isTwoDigits (bound : Nat) (s : List Char) : Bool :=
  (Text.takeDigits? 2 s).any fun (n, rest) => n ≤ bound && rest.isEmpty

/-- The offset of a time zone: a sign, hours and optional minutes. -/
def isZoneOffset : List Char → Bool
  | sign :: tens :: ones :: rest =>
    (sign == '+' || sign == '-') && isTwoDigits 25 [tens, ones]
      && match rest with
        | [] => true
        | ':' :: minutes => isTwoDigits 59 minutes
        | minutes => isTwoDigits 59 minutes
  | _ => false

/-- A time zone, whether it is to be obeyed or not. -/
def isZone (body : List Char) : Bool :=
  let zone := match body with
    | '!' :: zone => zone
    | zone => zone
  isZoneOffset zone || isZoneName zone

/-- A character with which the key of a remark starts. -/
def isKeyLead (c : Char) : Bool := c.isLower || c == '_'

/-- The key of a remark. -/
def isKey : List Char → Bool
  | [] => false
  | first :: rest => isKeyLead first && rest.all fun c => isKeyLead c || c.isDigit || c == '-'

/-- One value of a remark. -/
def isRemarkValue (s : List Char) : Bool := !s.isEmpty && s.all Char.isAlphanum

/-- A remark: a key, an equals sign, and values with hyphens between them. -/
def isRemark (body : List Char) : Bool :=
  match body.dropWhile (· != '=') with
  | _ :: values =>
    isKey (body.takeWhile (· != '=')) && (Text.parts '-' values).all isRemarkValue
  | [] => false

/-- The text after an opening bracket. -/
def afterBracket? : List Char → Option (List Char)
  | '[' :: body => some body
  | _ => none

/-- The texts between the brackets of which a whole text consists. -/
def bracketed? (s : List Char) : Option (List (List Char)) :=
  let parts := Text.parts ']' s
  if parts.getLast? = some [] then parts.dropLast.mapM afterBracket? else none

/-- A text of annotations, which may be empty. -/
def isAnnotations (s : List Char) : Bool :=
  match bracketed? s with
  | none => false
  | some [] => true
  | some (first :: rest) => (isZone first || isRemark first) && rest.all isRemark

example : isAnnotations "[!America/New_York][u-ca=iso8601]".toList = true := by decide +kernel

example : isAnnotations "[u-ca=iso8601][UTC]".toList = false := by decide +kernel

example : isAnnotations "[+05:30:15]".toList = false := by decide +kernel

end Relmap.Calendar
