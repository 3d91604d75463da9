import Relmap.Sql.Expr
import Relmap.Text.Digits

/-!
# Reading SQL

A reader of conditions and queries in named form, with the precedence of SQL: `NOT` binds tighter
than `AND`, `AND` tighter than `OR`, and parentheses group. Characters are read one by one. What
stands between parentheses is read at the closing one, so that a list of items without parentheses
is left to be told apart at every level.
-/

namespace Relmap.Sql

/-- The words that are not names. -/
inductive Keyword where
  | select | distinct | from | inner | left | join | on | as | where | and | or | not | in | is
  | null | like | order | by | asc | desc | limit | offset | count
deriving DecidableEq, Repr

namespace Keyword

def text : Keyword → String
  | .select => "SELECT"
  | .distinct => "DISTINCT"
  | .from => "FROM"
  | .inner => "INNER"
  | .left => "LEFT"
  | .join => "JOIN"
  | .on => "ON"
  | .as => "AS"
  | .where => "WHERE"
  | .and => "AND"
  | .or => "OR"
  | .not => "NOT"
  | .in => "IN"
  | .is => "IS"
  | .null => "NULL"
  | .like => "LIKE"
  | .order => "ORDER"
  | .by => "BY"
  | .asc => "ASC"
  | .desc => "DESC"
  | .limit => "LIMIT"
  | .offset => "OFFSET"
  | .count => "COUNT"

def all : List Keyword :=
  [.select, .distinct, .from, .inner, .left, .join, .on, .as, .where, .and, .or, .not, .in, .is,
   .null, .like, .order, .by, .asc, .desc, .limit, .offset, .count]

/-- The keyword that a word is, in any case of letters. -/
def ofText? (s : String) : Option Keyword :=
  all.find? fun k => k.text.toList == s.toList.map Char.toUpper

end Keyword

/-- The relation that a word is. -/
def Relation.ofText? (s : String) : Option Relation :=
  [.eq, .ne, .gt, .ge, .lt, .le].find? fun r => r.symbol == s

/-- A character that ends a word. -/
inductive Mark where
  | blank | opening | closing | comma | dot | colon | star | semicolon
deriving DecidableEq, Repr

def Mark.of? : Char → Option Mark
  | ' ' => some .blank
  | '(' => some .opening
  | ')' => some .closing
  | ',' => some .comma
  | '.' => some .dot
  | ':' => some .colon
  | '*' => some .star
  | ';' => some .semicolon
  | _ => none

inductive Token where
  | keyword (k : Keyword)
  | relation (r : Relation)
  | name (s : String)
  | mark (m : Mark)
deriving DecidableEq, Repr

def Token.ofWord (s : String) : Token :=
  match Keyword.ofText? s with
  | some k => .keyword k
  | none =>
    match Relation.ofText? s with
    | some r => .relation r
    | none => .name s

/-- What stands between parentheses. -/
inductive Content where
  | expr (e : Expr)
  | query (q : Select)
  | star
  | distinct (e : Expr)
  /-- Nothing that can be read. -/
  | unread

inductive Item where
  | token (t : Token)
  | group (c : Content)

namespace Item

def isKeyword (k : Keyword) : Item → Bool
  | .token (.keyword other) => other == k
  | _ => false

def isComma : Item → Bool
  | .token (.mark .comma) => true
  | _ => false

end Item

/-! ## Expressions -/

/-- The operand at the start of the items. -/
def operand? : List Item → Option (Expr × List Item)
  | .group (.expr e) :: rest => some (e, rest)
  | .token (.name table) :: .token (.mark .dot) :: .token (.name column) :: rest =>
    some (.of table column, rest)
  | .token (.name column) :: rest => some (.bare column, rest)
  | .token (.mark .colon) :: .token (.name name) :: rest => some (.placeholder name, rest)
  | .token (.keyword .count) :: .group .star :: rest => some (.countRows, rest)
  | .token (.keyword .count) :: .group (.distinct e) :: rest => some (.count true e, rest)
  | .token (.keyword .count) :: .group (.expr e) :: rest => some (.count false e, rest)
  | _ => none

def wholeOperand? (items : List Item) : Option Expr :=
  match operand? items with
  | some (e, []) => some e
  | _ => none

/-- An operand alone, or a test of an operand. -/
def predicate? (items : List Item) : Option Expr :=
  match operand? items with
  | none => none
  | some (subject, []) => some subject
  | some (left, .token (.relation r) :: right) => (wholeOperand? right).map (.compare left r)
  | some (subject, [.token (.keyword .is), .token (.keyword .null)]) => some (.isNull false subject)
  | some (subject, [.token (.keyword .is), .token (.keyword .not), .token (.keyword .null)]) =>
    some (.isNull true subject)
  | some (subject, [.token (.keyword .in), .group (.expr list)]) => some (.inList false subject list)
  | some (subject, [.token (.keyword .not), .token (.keyword .in), .group (.expr list)]) =>
    some (.inList true subject list)
  | some (subject, [.token (.keyword .in), .group (.query q)]) => some (.inQuery subject q)
  | some (subject, .token (.keyword .like) :: pattern) => (wholeOperand? pattern).map (.like subject)
  | _ => none

/-- A predicate with any number of `NOT` in front. -/
def negation? : List Item → Option Expr
  | .token (.keyword .not) :: rest => (negation? rest).map .not
  | items => predicate? items

/-- The operands under a connective. A single one stands for itself. -/
def compoundOf (connective : Connective) : List Expr → Expr
  | [operand] => operand
  | operands => .compound connective operands

def Connective.word : Connective → Keyword
  | .and => .and
  | .or => .or

/-- Expressions with a connective between them. -/
def joinedBy (connective : Connective) (part? : List Item → Option Expr) (items : List Item) :
    Option Expr :=
  ((items.splitOnP (Item.isKeyword connective.word)).mapM part?).map (compoundOf connective)

def conjunction? (items : List Item) : Option Expr := joinedBy .and negation? items

def disjunction? (items : List Item) : Option Expr := joinedBy .or conjunction? items

/-! ## Queries -/

/-- The part of a query that a word begins. -/
inductive Clause where
  | from | innerJoin | leftJoin | where | order | limit | offset | finish
deriving DecidableEq, Repr

def Clause.of? : Item → Option Clause
  | .token (.keyword .from) => some .from
  | .token (.keyword .inner) => some .innerJoin
  | .token (.keyword .left) => some .leftJoin
  | .token (.keyword .where) => some .where
  | .token (.keyword .order) => some .order
  | .token (.keyword .limit) => some .limit
  | .token (.keyword .offset) => some .offset
  | .token (.mark .semicolon) => some .finish
  | _ => none

/-- The items in front of all clauses, and those of each clause. -/
def clauses : List Item → List Item × List (Clause × List Item)
  | [] => ([], [])
  | item :: rest =>
    match Clause.of? item with
    | some clause => ([], (clause, (clauses rest).1) :: (clauses rest).2)
    | none => (item :: (clauses rest).1, (clauses rest).2)

def table? : List Item → Option TableRef
  | [.token (.name table)] => some ⟨table, table⟩
  | [.token (.name table), .token (.name aliasName)] => some ⟨table, aliasName⟩
  | _ => none

/-- A table with a condition, after `JOIN`. -/
def join? (kind : JoinKind) : List Item → Option Join
  | .token (.keyword .join) :: .token (.name table) :: .token (.keyword .on) :: on =>
    (disjunction? on).map fun e => ⟨kind, ⟨table, table⟩, e⟩
  | .token (.keyword .join) :: .token (.name table) :: .token (.name aliasName)
      :: .token (.keyword .on) :: on =>
    (disjunction? on).map fun e => ⟨kind, ⟨table, aliasName⟩, e⟩
  | _ => none

/-- An expression with an optional name, given from its end. -/
def outputItem? : List Item → Option SelectItem
  | .token (.name aliasName) :: .token (.keyword .as) :: front =>
    (disjunction? front.reverse).map fun e => ⟨e, some aliasName⟩
  | items => (disjunction? items.reverse).map fun e => ⟨e, none⟩

/-- An expression with a direction, given from its end. -/
def orderTerm? : List Item → Option OrderTerm
  | .token (.keyword .asc) :: front =>
    (disjunction? front.reverse).map fun e => ⟨e, .ascending⟩
  | .token (.keyword .desc) :: front =>
    (disjunction? front.reverse).map fun e => ⟨e, .descending⟩
  | _ => none

def columns? : List Item → Option (List SelectItem)
  | [.token (.mark .star)] => some []
  | items => (items.splitOnP Item.isComma).mapM fun part => outputItem? part.reverse

/-- Adds what a clause says to a query. -/
def addClause (q : Select) : Clause × List Item → Option Select
  | (.from, items) => (table? items).map fun t => { q with source := some t }
  | (.innerJoin, items) => (join? .inner items).map q.addJoin
  | (.leftJoin, items) => (join? .left items).map q.addJoin
  | (.where, items) => (disjunction? items).map q.where
  | (.order, .token (.keyword .by) :: items) =>
    ((items.splitOnP Item.isComma).mapM fun part => orderTerm? part.reverse).map fun order =>
      { q with order }
  | (.limit, [.token (.name n)]) =>
    (Text.natural? n.toList).map fun n => q.withLimit (some n)
  | (.offset, [.token (.name n)]) =>
    (Text.natural? n.toList).map fun n => q.withOffset (some n)
  | _ => none

/-- A query after `SELECT`. -/
def query? (items : List Item) : Option Select :=
  (columns? (clauses items).1).bind fun columns =>
    (clauses items).2.foldlM addClause { Select.empty with columns }

/-- What a list of items between parentheses is. -/
def Content.read : List Item → Content
  | [.token (.mark .star)] => .star
  | .token (.keyword .distinct) :: rest => ((disjunction? rest).map .distinct).getD .unread
  | .token (.keyword .select) :: rest => ((query? rest).map .query).getD .unread
  | items => ((disjunction? items).map .expr).getD .unread

/-! ## Characters -/

/-- A text as far as it is read: the word at its end, the items of the innermost parentheses that
are open, and the items in front of each opening one. -/
structure Reader where
  word : List Char
  items : List Item
  outer : List (List Item)

namespace Reader

def start : Reader := ⟨[], [], []⟩

def push (r : Reader) (item : Item) : Reader := { r with items := r.items ++ [item] }

/-- Ends the word. -/
def flush (r : Reader) : Reader :=
  if r.word.isEmpty then r
  else { r with word := [] }.push (.token (.ofWord (String.ofList r.word)))

def mark (r : Reader) : Mark → Reader
  | .blank => r
  | .opening => { r with items := [], outer := r.items :: r.outer }
  | .closing =>
    match r.outer with
    | items :: outer => ⟨r.word, items ++ [.group (Content.read r.items)], outer⟩
    | [] => r.push (.token (.mark .closing))
  | m => r.push (.token (.mark m))

def step (r : Reader) (c : Char) : Reader :=
  match Mark.of? c with
  | some m => r.flush.mark m
  | none => { r with word := r.word ++ [c] }

/-- Reads characters to their end. -/
def run (r : Reader) (s : List Char) : Reader := (s.foldl step r).flush

end Reader

/-- The items of a text in which all parentheses are closed. -/
def items? (s : String) : Option (List Item) :=
  let r := Reader.start.run s.toList
  if r.outer.isEmpty then some r.items else none

/-- Reads a condition. -/
def readCondition (s : String) : Option Expr := (items? s).bind disjunction?

def isFilter (part : Clause × List Item) : Bool := part.1 == .where

/-- Reads the condition of a query, of which there is none without a `WHERE` clause. -/
def readFilter (s : String) : Option (Option Expr) :=
  match items? s with
  | some (.token (.keyword .select) :: rest) =>
    match (clauses rest).2.find? isFilter with
    | some (_, items) => (disjunction? items).map some
    | none => some none
  | _ => none

end Relmap.Sql
