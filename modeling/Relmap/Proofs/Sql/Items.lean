import Relmap.Proofs.Sql.Reader

/-!
# Items of expressions

The items as which an expression or a query is read once it is written in named form, and the names
of its tables, aliases and columns. The names have to be plain, so that no other item is read.
-/

namespace Relmap.Sql

/-! ## Plain names -/

/-- A letter, a digit or an underscore. Characters beyond ASCII count as letters. -/
def isNameChar (c : Char) : Bool := c.isAlphanum || c == '_' || 128 ≤ c.toNat

/-- A name of letters, digits and underscores that is no keyword in any case of letters. -/
def isPlain (s : String) : Bool :=
  !s.toList.isEmpty && s.toList.all isNameChar && (Keyword.ofText? s).isNone

mutual

/-- The names of tables, aliases and columns in an expression. -/
def Expr.identifiers : Expr → List String
  | .compound _ operands => identifiersAll operands
  | .not operand => operand.identifiers
  | .compare left _ right => left.identifiers ++ right.identifiers
  | .column (some table) name => [table, name]
  | .column none name => [name]
  | .placeholder _ => []
  | .inList _ subject list => subject.identifiers ++ list.identifiers
  | .inQuery subject query => subject.identifiers ++ query.identifiers
  | .isNull _ subject => subject.identifiers
  | .like subject pattern => subject.identifiers ++ pattern.identifiers
  | .countRows => []
  | .count _ argument => argument.identifiers

def identifiersAll : List Expr → List String
  | [] => []
  | e :: rest => e.identifiers ++ identifiersAll rest

/-- The names of tables, aliases and columns in a query. -/
def Select.identifiers : Select → List String
  | ⟨columns, source, joins, filter, order, _, _⟩ =>
    columnIdentifiers columns ++ (source.toList.flatMap fun t => [t.table, t.aliasName]) ++
      joinIdentifiers joins ++ identifiersAll filter ++ orderIdentifiers order

def columnIdentifiers : List SelectItem → List String
  | [] => []
  | ⟨e, aliasName⟩ :: rest => e.identifiers ++ aliasName.toList ++ columnIdentifiers rest

def joinIdentifiers : List Join → List String
  | [] => []
  | ⟨_, target, on⟩ :: rest =>
    [target.table, target.aliasName] ++ on.identifiers ++ joinIdentifiers rest

def orderIdentifiers : List OrderTerm → List String
  | [] => []
  | ⟨e, _⟩ :: rest => e.identifiers ++ orderIdentifiers rest

end

/-! ## Items -/

/-- Parts with an item between them. -/
def between (separator : Item) : List (List Item) → List Item
  | [] => []
  | [part] => part
  | part :: rest => part ++ separator :: between separator rest

def keyword (k : Keyword) : Item := .token (.keyword k)

def name (s : String) : Item := .token (.name s)

def comma : Item := .token (.mark .comma)

/-- What is between parentheses around the items. -/
def enclosed (items : List Item) : Item := .group (Content.read items)

def operandItems (connective : Connective) : List (List Item) → List Item
  | [] => []
  | [operand] => operand
  | operands => between (keyword connective.word) (operands.map fun operand => [enclosed operand])

def filterItems (conditions : List (List Item)) : List Item :=
  if conditions.isEmpty then [] else keyword .where :: operandItems .and conditions

def TableRef.items (t : TableRef) : List Item :=
  name t.table :: if t.aliasName = t.table then [] else [name t.aliasName]

def JoinKind.word : JoinKind → Keyword
  | .inner => .inner
  | .left => .left

def Direction.word : Direction → Keyword
  | .ascending => .asc
  | .descending => .desc

def pageItems (limit offset : Option Nat) : List Item :=
  (limit.toList.flatMap fun n => [keyword .limit, name (toString n)]) ++
    offset.toList.flatMap fun n => [keyword .offset, name (toString n)]

mutual

def Expr.items : Expr → List Item
  | .compound connective operands => operandItems connective (itemsEach operands)
  | .not operand => [keyword .not, enclosed operand.items]
  | .compare left relation right => left.items ++ .token (.relation relation) :: right.items
  | .column (some table) column => [name table, .token (.mark .dot), name column]
  | .column none column => [name column]
  | .placeholder p => [.token (.mark .colon), name p]
  | .inList false subject list => subject.items ++ [keyword .in, enclosed list.items]
  | .inList true subject list => subject.items ++ [keyword .not, keyword .in, enclosed list.items]
  | .inQuery subject query => subject.items ++ [keyword .in, enclosed query.items]
  | .isNull false subject => subject.items ++ [keyword .is, keyword .null]
  | .isNull true subject => subject.items ++ [keyword .is, keyword .not, keyword .null]
  | .like subject pattern => subject.items ++ keyword .like :: pattern.items
  | .countRows => [keyword .count, .group .star]
  | .count false argument => [keyword .count, enclosed argument.items]
  | .count true argument => [keyword .count, enclosed (keyword .distinct :: argument.items)]

def itemsEach : List Expr → List (List Item)
  | [] => []
  | e :: rest => e.items :: itemsEach rest

def Select.items : Select → List Item
  | ⟨columns, source, joins, filter, order, limit, offset⟩ =>
    keyword .select
      :: (if columns.isEmpty then [.token (.mark .star)] else between comma (columnItems columns))
      ++ (source.toList.flatMap fun t => keyword .from :: t.items)
      ++ joinItems joins
      ++ filterItems (itemsEach filter)
      ++ (if order.isEmpty then []
          else keyword .order :: keyword .by :: between comma (orderItems order))
      ++ pageItems limit offset

def columnItems : List SelectItem → List (List Item)
  | [] => []
  | ⟨e, some aliasName⟩ :: rest =>
    (e.items ++ [keyword .as, name aliasName]) :: columnItems rest
  | ⟨e, none⟩ :: rest => e.items :: columnItems rest

def joinItems : List Join → List Item
  | [] => []
  | ⟨kind, target, on⟩ :: rest =>
    keyword kind.word :: keyword .join :: target.items ++ keyword .on :: on.items ++ joinItems rest

def orderItems : List OrderTerm → List (List Item)
  | [] => []
  | ⟨e, direction⟩ :: rest => (e.items ++ [keyword direction.word]) :: orderItems rest

end

end Relmap.Sql
