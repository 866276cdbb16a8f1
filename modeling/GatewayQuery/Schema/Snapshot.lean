/-
A schema as JSON text.  The writer gives every field of every record; the reader lets the fields
that have a natural default be missing, and refuses a schema that is not consistent.
-/
import GatewayQuery.Schema.Consistency
import GatewayQuery.Json.Printer
import GatewayQuery.Json.Typed

namespace GatewayQuery

open Json.Read (Slot)

/-! ### Writing -/

def RelationKind.name : RelationKind → String
  | .table => "table"
  | .view => "view"

def RelationKind.ofName? : String → Option RelationKind
  | "table" => some .table
  | "view" => some .view
  | _ => none

namespace Snapshot

def strings (texts : List String) : Json := .array (texts.map .string)

def column (column : Column) : Json :=
  .object [("name", .string column.name), ("type", .string column.dataType),
    ("isNullable", .bool column.nullable)]

def foreignKey (key : ForeignKey) : Json :=
  .object [("foreignKeyName", .string key.name), ("columns", strings key.columns),
    ("referencedRelation", .string key.referenced),
    ("referencedColumns", strings key.referencedColumns), ("isOneToOne", .bool key.oneToOne)]

def relation (relation : Relation) : Json :=
  .object [("name", .string relation.name), ("kind", .string relation.kind.name),
    ("columns", .array (relation.columns.map column)),
    ("relationships", .array (relation.keys.map foreignKey))]

def enumType (type : EnumType) : Json :=
  .object [("name", .string type.name), ("values", strings type.labels)]

end Snapshot

/-- The schema as a JSON value. -/
def Schema.toJson (schema : Schema) : Json :=
  .object [("relations", .array (schema.relations.map Snapshot.relation)),
    ("enums", .array (schema.enums.map Snapshot.enumType))]

/-- The text of the snapshot of a schema. -/
def Schema.toText (schema : Schema) : String := schema.toJson.print

/-! ### Reading

While a record is read its fields are optional.  A record is complete when the fields without a
default are there. -/

namespace Snapshot

/-- The fields of a column read so far. -/
structure ColumnPart where
  name : Option String
  dataType : Option String
  nullable : Option Bool

def ColumnPart.complete (part : ColumnPart) : Option Column := do
  return ⟨← part.name, ← part.dataType, part.nullable.getD false⟩

/-- Reads a value into a field of a part. -/
def slot {σ α : Type} (key : String) (get : σ → Option α) (set : σ → α → σ)
    (reader : Json.Reader α) : Slot σ where
  key := key
  isFilled part := (get part).isSome
  fill part cs := (reader cs).map fun (value, rest) => (set part value, rest)

def columnSlots : List (Slot ColumnPart) := [
  slot "name" ColumnPart.name (fun part value => { part with name := some value })
    Json.Read.string,
  slot "type" ColumnPart.dataType (fun part value => { part with dataType := some value })
    Json.Read.string,
  slot "isNullable" ColumnPart.nullable (fun part value => { part with nullable := some value })
    Json.Read.bool]

def readColumn : Json.Reader Column :=
  Json.Read.record columnSlots ⟨none, none, none⟩ ColumnPart.complete

/-- The fields of a foreign key read so far. -/
structure KeyPart where
  name : Option String
  columns : Option (List String)
  referenced : Option String
  referencedColumns : Option (List String)
  oneToOne : Option Bool

def KeyPart.complete (part : KeyPart) : Option ForeignKey := do
  return ⟨← part.name, ← part.columns, ← part.referenced, ← part.referencedColumns,
    part.oneToOne.getD false⟩

def keySlots : List (Slot KeyPart) := [
  slot "foreignKeyName" KeyPart.name (fun part value => { part with name := some value })
    Json.Read.string,
  slot "columns" KeyPart.columns (fun part value => { part with columns := some value })
    (Json.Read.list Json.Read.string),
  slot "referencedRelation" KeyPart.referenced
    (fun part value => { part with referenced := some value }) Json.Read.string,
  slot "referencedColumns" KeyPart.referencedColumns
    (fun part value => { part with referencedColumns := some value })
    (Json.Read.list Json.Read.string),
  slot "isOneToOne" KeyPart.oneToOne (fun part value => { part with oneToOne := some value })
    Json.Read.bool]

def readKey : Json.Reader ForeignKey :=
  Json.Read.record keySlots ⟨none, none, none, none, none⟩ KeyPart.complete

/-- The fields of a relation read so far. -/
structure RelationPart where
  name : Option String
  kind : Option RelationKind
  columns : Option (List Column)
  keys : Option (List ForeignKey)

def RelationPart.complete (part : RelationPart) : Option Relation := do
  return ⟨← part.name, part.kind.getD .table, part.columns.getD [], part.keys.getD []⟩

def relationSlots : List (Slot RelationPart) := [
  slot "name" RelationPart.name (fun part value => { part with name := some value })
    Json.Read.string,
  slot "kind" RelationPart.kind (fun part value => { part with kind := some value })
    (Json.Read.choice RelationKind.ofName?),
  slot "columns" RelationPart.columns (fun part value => { part with columns := some value })
    (Json.Read.list readColumn),
  slot "relationships" RelationPart.keys (fun part value => { part with keys := some value })
    (Json.Read.list readKey)]

def readRelation : Json.Reader Relation :=
  Json.Read.record relationSlots ⟨none, none, none, none⟩ RelationPart.complete

/-- The fields of an enum type read so far. -/
structure EnumPart where
  name : Option String
  labels : Option (List String)

def EnumPart.complete (part : EnumPart) : Option EnumType := do
  return ⟨← part.name, ← part.labels⟩

def enumSlots : List (Slot EnumPart) := [
  slot "name" EnumPart.name (fun part value => { part with name := some value })
    Json.Read.string,
  slot "values" EnumPart.labels (fun part value => { part with labels := some value })
    (Json.Read.list Json.Read.string)]

def readEnum : Json.Reader EnumType :=
  Json.Read.record enumSlots ⟨none, none⟩ EnumPart.complete

/-- The fields of a schema read so far. -/
structure SchemaPart where
  relations : Option (List Relation)
  enums : Option (List EnumType)

def SchemaPart.complete (part : SchemaPart) : Option Schema :=
  some ⟨part.relations.getD [], part.enums.getD []⟩

def schemaSlots : List (Slot SchemaPart) := [
  slot "relations" SchemaPart.relations (fun part value => { part with relations := some value })
    (Json.Read.list readRelation),
  slot "enums" SchemaPart.enums (fun part value => { part with enums := some value })
    (Json.Read.list readEnum)]

def readSchema : Json.Reader Schema :=
  Json.Read.record schemaSlots ⟨none, none⟩ SchemaPart.complete

end Snapshot

namespace Schema

/-- Why a snapshot is refused. -/
inductive LoadError where
  | json (fault : Json.Fault)
  | inconsistent (fault : Inconsistency)
  deriving DecidableEq, Repr

/-- The schema that a text holds, consistent or not. -/
def ofText? (text : String) : Except Json.Fault Schema := Json.Read.whole Snapshot.readSchema text

/-- The schema that a snapshot holds. -/
def load (text : String) : Except LoadError Schema :=
  match ofText? text with
  | .error fault => .error (.json fault)
  | .ok schema =>
    match schema.check with
    | .error fault => .error (.inconsistent fault)
    | .ok () => .ok schema

end Schema

end GatewayQuery
