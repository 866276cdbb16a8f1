/-
Database types as types of result values.  The labels of an enum are looked up first; then both
notations for arrays are undone one step at a time, the brackets after a name before the
underscore in front of it.
-/
import GatewayQuery.Schema.Basic
import GatewayQuery.Shape.Basic
import GatewayQuery.Text.Blank

namespace GatewayQuery

/-- The type of a scalar by its database name, in lower case. -/
def ValueType.ofScalar : String → ValueType
  | "bool" | "boolean" => .boolean
  | "int2" | "int4" | "int8" | "float4" | "float8" | "numeric" | "smallint" | "integer" | "int"
  | "bigint" | "real" | "double precision" | "decimal" | "serial" | "bigserial" | "smallserial"
  | "money" | "oid" => .number
  | "bytea" | "bpchar" | "char" | "character" | "varchar" | "character varying" | "date" | "text"
  | "citext" | "time" | "timetz" | "timestamp" | "timestamptz" | "uuid" | "vector" | "interval"
  | "inet" | "cidr" | "macaddr" | "name" | "tsvector" => .string
  | "json" | "jsonb" => .json
  | "void" => .void
  | "record" => .record
  | _ => .unknown

namespace Schema

/-- The name of the elements of an array type: `name[]` or `_name`. -/
def elementName? (name : List Char) : Option (List Char) :=
  match name.reverse with
  | ']' :: '[' :: rest => some rest.reverse
  | _ =>
    match name with
    | '_' :: rest => some rest
    | _ => none

theorem length_elementName?_lt {name element : List Char} (h : elementName? name = some element) :
    element.length < name.length := by
  unfold elementName? at h
  split at h
  · rename_i rest reversed
    have : name.length = rest.length + 2 := by
      rw [← List.length_reverse, reversed]
      rfl
    simp only [Option.some.injEq] at h
    subst h
    simp
    omega
  · split at h
    · simp only [Option.some.injEq] at h
      subst h
      simp
    · simp at h

/-- The type of a name given as characters; the blanks around it do not count. -/
def valueTypeOf (schema : Schema) (name : List Char) : ValueType :=
  match schema.enum? (String.ofList (Text.trimBlank name)) with
  | some type => .enumeration type.labels
  | none =>
    match h : elementName? (Text.trimBlank name) with
    | some element =>
      have := Nat.lt_of_lt_of_le (length_elementName?_lt h) (Text.length_trimBlank_le name)
      .array (schema.valueTypeOf element)
    | none => .ofScalar (String.ofList ((Text.trimBlank name).map Char.toLower))
termination_by name.length
decreasing_by assumption

/-- The type of the values of a database type. -/
def valueType (schema : Schema) (dataType : String) : ValueType :=
  schema.valueTypeOf dataType.toList

end Schema

end GatewayQuery
