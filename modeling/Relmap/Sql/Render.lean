import Relmap.Sql.Flavor
import Relmap.Sql.Fragment
import Relmap.Sql.Parameter

/-!
# Rendering

Writes the fragments of a statement in a flavor and binds its placeholders on the way. Writing goes
on after an error, so that the bound values do not depend on the flavor or on the error; the first
error is the outcome.
-/

namespace Relmap.Sql

/-- A statement as far as it is written. -/
structure Writing where
  text : String
  values : List BoundValue
  error : Option Error

namespace Writing

def empty : Writing := ⟨"", [], none⟩

def write (w : Writing) (s : String) : Writing := { w with text := w.text ++ s }

/-- Keeps the error unless there is one already. -/
def fail (w : Writing) (e : Error) : Writing :=
  match w.error with
  | some _ => w
  | none => { w with error := some e }

/-- Writes positions between commas. -/
def writePositions (flavor : Flavor) : Writing → List Nat → Writing
  | w, [] => w
  | w, n :: rest =>
    let w := match flavor.position n with
      | .ok s => w.write s
      | .error e => w.fail e
    writePositions flavor (if rest.isEmpty then w else w.write ", ") rest

/-- Writes a placeholder with the positions that it takes. No position at all is written `NULL`,
since an empty list matches nothing. -/
def writePlaceholder (flavor : Flavor) (w : Writing) (name : String) (positions : List Nat) :
    Writing :=
  match flavor with
  | .named => w.write (":" ++ name)
  | _ => if positions.isEmpty then w.write "NULL" else w.writePositions flavor positions

/-- Writes one fragment. -/
def writeFragment (flavor : Flavor) (params : List Parameter) (w : Writing) : Fragment → Writing
  | .text s => w.write s
  | .placeholder name =>
    match bind params w.values.length name with
    | .ok (positions, values) =>
      { w with values := w.values ++ values }.writePlaceholder flavor name positions
    | .error e => w.fail e
  | .patternEnd => w.write flavor.escapeClause
  | .bareOffset => w.write flavor.limitForOffset
  | .missingOperands connective => w.fail (.statement (.emptyOperands connective.keyword))

/-- Writes fragments from left to right. -/
def writeAll (flavor : Flavor) (params : List Parameter) (w : Writing)
    (fragments : List Fragment) : Writing :=
  fragments.foldl (writeFragment flavor params) w

end Writing

/-- A rendered statement: its text or the first error, and the values in binding order. -/
structure Rendering where
  outcome : Except Error String
  values : List BoundValue

/-- The fragments in a flavor, with the bound values. -/
def render (flavor : Flavor) (params : List Parameter) (fragments : List Fragment) : Rendering :=
  let w := Writing.empty.writeAll flavor params fragments
  ⟨match w.error with
    | some e => .error e
    | none => .ok w.text, w.values⟩

/-- An expression on its own. -/
def Expr.render (e : Expr) (flavor : Flavor) (params : List Parameter) : Rendering :=
  Sql.render flavor params e.fragments

/-- A statement with the semicolon that ends it. -/
def Statement.render (s : Statement) (flavor : Flavor) (params : List Parameter) : Rendering :=
  Sql.render flavor params (s.fragments ++ [.text ";"])

/-- The keyword of an ordering direction, in any case of ASCII letters. -/
def Direction.ofText (s : String) : Except Error Direction :=
  if s.toLower = "asc" then .ok .ascending
  else if s.toLower = "desc" then .ok .descending
  else .error (.statement (.invalidDirection s))

end Relmap.Sql
