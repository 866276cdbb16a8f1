/-
The relation that a record type describes: a column for every field, a foreign key for every field
that refers to another relation, and names taken from the type and its fields unless attributes
give others.
-/
import GatewayQuery.Record.Attributes
import GatewayQuery.Record.FieldType
import GatewayQuery.Schema.Basic
import GatewayQuery.Text.Uppercase

namespace GatewayQuery.Record

/-- The characters of a name in small letters, an underscore before every capital but the first
character.  Only ASCII letters change. -/
def snakeChars : List Char → List Char
  | [] => []
  | first :: rest =>
    first.toLower ::
      rest.flatMap fun c => if Text.uppercase.contains c then ['_', c.toLower] else [c]

/-- The name of a type as the name of a relation. -/
def snakeCase (name : String) : String := String.ofList (snakeChars name.toList)

/-- The name that a database gives to a foreign key. -/
def defaultKeyName (relation column : String) : String := relation ++ "_" ++ column ++ "_fkey"

/-- The foreign key that a field declares, if it has the attribute; only the first one counts. -/
def foreignKey? (attributes : List Attribute) (relation column : String) :
    Except Fault (Option ForeignKey) :=
  match attributes.find? (·.name == Vocabulary.references.name) with
  | none => .ok none
  | some written => do
    let settings ← Vocabulary.references.settingsOf
      (.error (.expectedArguments Vocabulary.references.name)) written.arguments
    match settings.text? "relation" with
    | none => .error .missingRelation
    | some referenced =>
      return some {
        name := (settings.text? "fkey").getD (defaultKeyName relation column)
        columns := [column]
        referenced := referenced
        referencedColumns := [(settings.text? "column").getD "id"]
        oneToOne := settings.has "one_to_one" }

/-- The column of a field, and the foreign key on it. -/
def column (relation : String) (field : Field) : Except Fault (Column × Option ForeignKey) := do
  let settings ← Vocabulary.column.settings field.attributes
  let (inferred, optional) := field.type.columnType
  match (settings.text? "pg_type").or inferred with
  | none => .error .unknownType
  | some dataType =>
    let name := (settings.text? "name").getD field.name
    let key ← foreignKey? field.attributes relation name
    return (⟨name, dataType, settings.has "nullable" || optional⟩, key)

/-- Whether a relation can be made of a type of the form. -/
def checkForm : Form → Except Fault Unit
  | .named => .ok ()
  | .tuple | .unit => .error .unnamedFields
  | .enumeration | .union => .error .notStruct

/-- What is generated for a type: its relation and, as constants, the name of the relation and the
names of its columns. -/
structure Generated where
  relation : Relation
  relationName : String
  columnNames : List String
  deriving DecidableEq, Repr

/-- Generates what belongs to a type. -/
def generate (item : Item) : Except Fault Generated := do
  let settings ← Vocabulary.relation.settings item.attributes
  checkForm item.form
  let name := (settings.text? "name").getD (snakeCase item.name)
  let columns ← item.fields.mapM (column name)
  return {
    relation := {
      name := name
      kind := if settings.has "view" then .view else .table
      columns := columns.map (·.1)
      keys := columns.filterMap (·.2) }
    relationName := name
    columnNames := columns.map (·.1.name) }

/-- The relation that a type describes. -/
def derive (item : Item) : Except Fault Relation := (generate item).map (·.relation)

end GatewayQuery.Record
