/-
A shape as JSON, for programs.  The members of the object are the keys in the order of the shape;
each entry tells its type by a tag, with what the type is made of beside it.
-/
import GatewayQuery.Shape.Basic
import GatewayQuery.Json.Basic

namespace GatewayQuery

def stringsJson (texts : List String) : Json := .array (texts.map .string)

def Candidate.toJson (candidate : Candidate) : Json :=
  .object [("foreign_key_name", .string candidate.foreignKey), ("owner", .string candidate.owner),
    ("columns", stringsJson candidate.columns),
    ("referenced_relation", .string candidate.referenced)]

/-- A member that is left out when there is no value for it. -/
def optionalMember (name : String) : Option String → List (String × Json)
  | none => []
  | some text => [(name, .string text)]

/-- Only the names that there are. -/
def Diagnosis.Context.toJson (context : Diagnosis.Context) : Json :=
  .object (optionalMember "relation" context.relation ++ optionalMember "target" context.target ++
    (if context.candidates.isEmpty then []
      else [("candidates", .array (context.candidates.map Candidate.toJson))]) ++
    optionalMember "hint" context.hint)

def Diagnosis.toJson (diagnosis : Diagnosis) : Json :=
  .object [("kind", .string diagnosis.kind.name), ("message", .string diagnosis.message),
    ("context", diagnosis.context.toJson)]

mutual

/-- The tag of a type and what it is made of. -/
def ValueType.members : ValueType → List (String × Json)
  | .number => [("type", .string "number")]
  | .string => [("type", .string "string")]
  | .boolean => [("type", .string "boolean")]
  | .json => [("type", .string "json")]
  | .record => [("type", .string "record")]
  | .void => [("type", .string "void")]
  | .unknown => [("type", .string "unknown")]
  | .enumeration labels => [("type", .string "enum"), ("of", stringsJson labels)]
  | .array element => [("type", .string "array"), ("of", .object element.members)]
  | .object fields => [("type", .string "object"), ("of", .object (Shape.members fields))]

def Entry.toJson : Entry → Json
  | .typed type nullable => .object (type.members ++ [("nullable", .bool nullable)])
  | .failed diagnosis => .object [("error", diagnosis.toJson)]

def Shape.members : List (String × Entry) → List (String × Json)
  | [] => []
  | (key, entry) :: rest => (key, entry.toJson) :: Shape.members rest

end

def ValueType.toJson (type : ValueType) : Json := .object type.members

def Shape.toJson (shape : Shape) : Json := .object (Shape.members shape)

end GatewayQuery
