/-
A database schema as a gateway exposes it: relations with their columns, the foreign keys that
each relation declares, and the enum types that columns use.  Everything stands in the order of
declaration, and look-ups take the first match.
-/

namespace GatewayQuery

/-- Whether a relation is a table or a view. -/
inductive RelationKind where
  | table
  | view
  deriving DecidableEq, Repr, Inhabited

structure Column where
  name : String
  /-- The name of its database type. -/
  dataType : String
  nullable : Bool
  deriving DecidableEq, Repr, Inhabited

/-- A foreign key, declared by the relation that owns it. -/
structure ForeignKey where
  /-- The name of the constraint. -/
  name : String
  /-- The owning columns. -/
  columns : List String
  /-- The relation that the key points at. -/
  referenced : String
  /-- The columns pointed at, in the order of the owning ones. -/
  referencedColumns : List String
  /-- Whether the owning columns are unique as well. -/
  oneToOne : Bool
  deriving DecidableEq, Repr, Inhabited

/-- Whether the key consists of just the one column. -/
def ForeignKey.isColumn (key : ForeignKey) (column : String) : Bool := key.columns == [column]

/-- A table or view. -/
structure Relation where
  name : String
  kind : RelationKind
  columns : List Column
  /-- The foreign keys that the relation owns. -/
  keys : List ForeignKey
  deriving DecidableEq, Repr, Inhabited

namespace Relation

/-- A relation without columns and keys. -/
def empty (kind : RelationKind) (name : String) : Relation := ⟨name, kind, [], []⟩

/-- The relation with one more column. -/
def addColumn (relation : Relation) (column : Column) : Relation :=
  { relation with columns := relation.columns ++ [column] }

/-- The relation with one more foreign key. -/
def addKey (relation : Relation) (key : ForeignKey) : Relation :=
  { relation with keys := relation.keys ++ [key] }

/-- The first column with the name. -/
def column? (relation : Relation) (name : String) : Option Column :=
  relation.columns.find? (·.name == name)

end Relation

/-- An enum type and its labels. -/
structure EnumType where
  name : String
  labels : List String
  deriving DecidableEq, Repr, Inhabited

structure Schema where
  relations : List Relation
  enums : List EnumType
  deriving DecidableEq, Repr, Inhabited

namespace Schema

def empty : Schema := ⟨[], []⟩

/-- The schema with one more relation. -/
def addRelation (schema : Schema) (relation : Relation) : Schema :=
  { schema with relations := schema.relations ++ [relation] }

/-- The schema with one more enum type. -/
def addEnum (schema : Schema) (type : EnumType) : Schema :=
  { schema with enums := schema.enums ++ [type] }

/-- The first relation with the name. -/
def relation? (schema : Schema) (name : String) : Option Relation :=
  schema.relations.find? (·.name == name)

/-- The first enum type with the name. -/
def enum? (schema : Schema) (name : String) : Option EnumType :=
  schema.enums.find? (·.name == name)

end Schema

end GatewayQuery
