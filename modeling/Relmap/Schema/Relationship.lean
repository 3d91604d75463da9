import Relmap.Error.Basic

/-!
# Relationships

A navigable link from a table to the table of another entity. A link to one row has its foreign key
on the side that it starts from; a link to many rows has it on the other side and is always joined.
-/

namespace Relmap

/-- How a relationship is followed in a query. -/
inductive JoinType where
  | joined
  | subSelect
deriving DecidableEq, Repr

/-- How many rows a relationship leads to. -/
inductive RelationshipKind where
  | manyToOne
  | oneToMany
deriving DecidableEq, Repr

namespace JoinType

def all : List JoinType := [.joined, .subSelect]

def name : JoinType → String
  | .joined => "joined"
  | .subSelect => "sub_select"

/-- The join type with the given name. -/
def named? (s : String) : Option JoinType := all.find? fun join => join.name == s

end JoinType

namespace RelationshipKind

def all : List RelationshipKind := [.manyToOne, .oneToMany]

def name : RelationshipKind → String
  | .manyToOne => "many_to_one"
  | .oneToMany => "one_to_many"

/-- The kind with the given name. -/
def named? (s : String) : Option RelationshipKind := all.find? fun kind => kind.name == s

end RelationshipKind

/-- A link to an entity under a property name. -/
structure Relationship where
  /-- The entity that the link leads to. -/
  target : String
  property : String
  /-- The column that holds the link, empty if the other table holds it. -/
  foreignKey : String
  /-- The column of the target that the link is matched with. -/
  relatedId : String
  join : JoinType
  kind : RelationshipKind
  /-- Links to many rows are always joined. -/
  joined_of_toMany : kind = .oneToMany → join = .joined
deriving DecidableEq, Repr

namespace Relationship

/-- A link to one row through a foreign key. -/
def toOne (target property foreignKey relatedId : String) : Relationship :=
  ⟨target, property, foreignKey, relatedId, .joined, .manyToOne, nofun⟩

/-- A link to the rows of the target that point back. -/
def toMany (target property relatedId : String) : Relationship :=
  ⟨target, property, "", relatedId, .joined, .oneToMany, fun _ => rfl⟩

def isToMany (r : Relationship) : Bool := r.kind == .oneToMany

/-- The relationship with another join type, which a link to many rows does not take. -/
def withJoin (r : Relationship) (join : JoinType) : Except Error Relationship :=
  if refused : r.isToMany && join != .joined then .error (.mapping (.fixedJoin r.property))
  else .ok
    { r with join, joined_of_toMany := fun many => by simpa [isToMany, many] using refused }

end Relationship
end Relmap
