/-
Descriptions of record types, as a compiler sees them before it knows what the names mean: the name
of the type, its form, the attributes written on it and on its fields, and the types of the
fields.
-/

namespace GatewayQuery.Record

mutual

/-- The type of a field as it is written. -/
inductive TypeExpr where
  /-- A name with its path, and the arguments of the last part of it. -/
  | path (segments : List String) (arguments : List TypeArgument)
  | reference (target : TypeExpr)
  | slice (element : TypeExpr)
  | array (element : TypeExpr)
  | parens (inner : TypeExpr)
  | tuple (items : List TypeExpr)

/-- An argument of a generic type. -/
inductive TypeArgument where
  | type (type : TypeExpr)
  | lifetime (name : String)

end

/-- A value in an attribute: only strings are ever wanted. -/
inductive Literal where
  | text (value : String)
  | other
  deriving DecidableEq, Repr

/-- One entry of an attribute: a key alone, or a key with a value. -/
structure Entry where
  key : String
  value : Option Literal
  deriving DecidableEq, Repr

/-- What follows the name of an attribute. -/
inductive Arguments where
  | none
  /-- An equals sign and a value. -/
  | value (value : Literal)
  /-- Entries in parentheses. -/
  | entries (entries : List Entry)
  deriving DecidableEq, Repr

structure Attribute where
  name : String
  arguments : Arguments
  deriving DecidableEq, Repr

structure Field where
  name : String
  type : TypeExpr
  attributes : List Attribute

/-- The form of a type. -/
inductive Form where
  /-- A struct with named fields. -/
  | named
  /-- A struct without field names. -/
  | tuple
  /-- A struct without fields. -/
  | unit
  | enumeration
  | union
  deriving DecidableEq, Repr

/-- The description of a type. -/
structure Item where
  name : String
  form : Form
  attributes : List Attribute
  fields : List Field

end GatewayQuery.Record
