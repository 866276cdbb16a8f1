/-
When a schema makes sense: no two relations share a name, and every foreign key names columns that
its relation has, as many as it points at.  The relations pointed at may be missing, because a
snapshot often shows a part of a database.

`Schema.check` looks for the first fault in the order of declaration; `Schema.Consistent` says what
there must be no fault of.
-/
import GatewayQuery.Schema.Basic

namespace GatewayQuery.Schema

/-- What is wrong with a schema. -/
inductive Inconsistency where
  /-- A relation has the name of an earlier one. -/
  | duplicateRelation (relation : String)
  /-- A key has a column that its relation has not. -/
  | unknownColumn (relation key column : String)
  /-- A key points at more or fewer columns than it has. -/
  | columnCount (key : String)
  deriving DecidableEq, Repr

def Inconsistency.message : Inconsistency → String
  | .duplicateRelation relation => "relation '" ++ relation ++ "' is declared more than once"
  | .unknownColumn relation key column =>
    "relationship '" ++ key ++ "' on '" ++ relation ++ "' uses unknown column '" ++ column ++ "'"
  | .columnCount key => "relationship '" ++ key ++ "' has mismatched column lists"

/-- The first fault of a key: its column counts, then its first column that is missing. -/
def keyFault? (relation : Relation) (key : ForeignKey) : Option Inconsistency :=
  if key.columns.length ≠ key.referencedColumns.length then some (.columnCount key.name)
  else
    (key.columns.find? fun column => (relation.column? column).isNone).map
      (.unknownColumn relation.name key.name)

/-- The first fault of a relation, given the relations before it: its name, then its keys. -/
def relationFault? (earlier : List Relation) (relation : Relation) : Option Inconsistency :=
  if earlier.any (·.name == relation.name) then some (.duplicateRelation relation.name)
  else relation.keys.findSome? (keyFault? relation)

/-- The first fault of some relations, given those before them. -/
def firstFault? (earlier : List Relation) : List Relation → Option Inconsistency
  | [] => none
  | relation :: later =>
    (relationFault? earlier relation).or (firstFault? (earlier ++ [relation]) later)

/-- Refuses a schema at its first fault. -/
def check (schema : Schema) : Except Inconsistency Unit :=
  match firstFault? [] schema.relations with
  | some fault => .error fault
  | none => .ok ()

/-- What is asked of a key. -/
structure ConsistentKey (relation : Relation) (key : ForeignKey) : Prop where
  sameLength : key.columns.length = key.referencedColumns.length
  known : ∀ name ∈ key.columns, ∃ column ∈ relation.columns, column.name = name

/-- What is asked of a schema. -/
structure Consistent (schema : Schema) : Prop where
  distinct : (schema.relations.map (·.name)).Nodup
  keys : ∀ relation ∈ schema.relations, ∀ key ∈ relation.keys, ConsistentKey relation key

end GatewayQuery.Schema
