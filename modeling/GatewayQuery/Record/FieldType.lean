/-
Database types for the types of fields.  An option makes a column nullable, a list makes it an
array, a list of bytes is a byte string, and a reference is the thing referred to.
-/
import GatewayQuery.Record.Item

namespace GatewayQuery.Record

/-- The database type of a plain type, by the last part of its name. -/
def scalarType? : String → Option String
  | "bool" => some "bool"
  | "i16" => some "int2"
  | "i32" => some "int4"
  | "i64" | "u32" => some "int8"
  | "f32" => some "float4"
  | "f64" => some "float8"
  | "Decimal" => some "numeric"
  | "String" | "str" => some "text"
  | "Uuid" => some "uuid"
  | "Value" => some "jsonb"
  | "NaiveDate" => some "date"
  | "NaiveTime" => some "time"
  | "NaiveDateTime" => some "timestamp"
  | "DateTime" => some "timestamptz"
  | _ => none

namespace TypeExpr

/-- The last part of the name of a type, if it has a name. -/
def lastName? : TypeExpr → Option String
  | .path segments _ => segments.getLast?
  | _ => none

mutual

/-- The database type of a field, if it is known, and whether the field may be without a value.
Only the outermost option, references apart, makes it so. -/
def columnType : TypeExpr → Option String × Bool
  | .path segments arguments =>
    let plain := ((segments.getLast?.bind scalarType?), false)
    if segments.getLast? = some "Option" then
      ((argumentType arguments).map fun (inner, _) => (inner.1, true)).getD plain
    else if segments.getLast? = some "Vec" then
      ((argumentType arguments).map fun (inner, name) =>
        if name = some "u8" then (some "bytea", false)
        else (inner.1.map ("_" ++ ·), false)).getD plain
    else plain
  | .reference target => columnType target
  | _ => (none, false)

/-- The database type of the first argument that is a type, and its name. -/
def argumentType : List TypeArgument → Option ((Option String × Bool) × Option String)
  | [] => none
  | .type type :: _ => some (columnType type, lastName? type)
  | .lifetime _ :: rest => argumentType rest

end

end TypeExpr

end GatewayQuery.Record
