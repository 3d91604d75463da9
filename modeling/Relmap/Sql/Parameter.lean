import Relmap.Schema.Conversion

/-!
# Parameters

Named values for the placeholders of a statement. A scalar takes one position among the bound
values, a list one position for each item.
-/

namespace Relmap.Sql

/-- A named value and the type of the column that it is meant for. -/
structure Parameter where
  name : String
  value : Value
  type : ColumnType

/-- A bound value and the type of the column that it is meant for. -/
structure BoundValue where
  value : Value
  type : ColumnType

namespace Parameter

/-- The type under which the parameter is bound. -/
def bindingType (p : Parameter) : BindingType := p.type.bindingType p.value

/-- The values that take a position for the parameter. -/
def expansion (p : Parameter) : List BoundValue :=
  match p.value with
  | .list items => items.map fun item => ⟨item, p.type⟩
  | value => [⟨value, p.type⟩]

/-- The parameter in the form in which a database stores its value. -/
def toStored (p : Parameter) : Except Error Parameter :=
  match p.type.toStored p.value with
  | .ok value => .ok { p with value }
  | .error e => .error e

end Parameter

/-- The first parameter of a name. -/
def parameter? (params : List Parameter) (name : String) : Option Parameter :=
  params.find? fun p => p.name == name

/-- The positions that a placeholder takes after `taken` others, and the values for them. -/
def bind (params : List Parameter) (taken : Nat) (name : String) :
    Except Error (List Nat × List BoundValue) :=
  match parameter? params name with
  | none => .error (.statement (.unboundPlaceholder name))
  | some p => .ok (List.range' (taken + 1) p.expansion.length, p.expansion)

end Relmap.Sql
