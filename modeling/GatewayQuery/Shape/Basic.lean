/-
The shape of a result row: its keys in order, each with a type or with what kept the type from
being found.  Objects nest through embeddings, so types, entries and shapes are defined together.

A shape behaves as a map that remembers the order in which its keys first came: writing a key that
is there replaces its entry where it stands.
-/
import GatewayQuery.Keyed
import GatewayQuery.Shape.Failure

namespace GatewayQuery

mutual

/-- The type of a value in a result row. -/
inductive ValueType where
  | number
  | string
  | boolean
  /-- Any JSON. -/
  | json
  /-- A row whose columns are not known. -/
  | record
  /-- No value. -/
  | void
  /-- A type that has no counterpart. -/
  | unknown
  /-- One of some labels. -/
  | enumeration (labels : List String)
  | array (element : ValueType)
  /-- A nested row. -/
  | object (fields : List (String × Entry))

/-- What is known of one key. -/
inductive Entry where
  | typed (type : ValueType) (nullable : Bool)
  | failed (diagnosis : Diagnosis)

end

/-- The keys of a row in order, with what is known of each. -/
abbrev Shape := List (String × Entry)

namespace Entry

/-- The entry of a failure. -/
def ofFailure (failure : Failure) : Entry := .failed failure.diagnosis

/-- The entry, its value possibly null; a failure stays what it is. -/
def nullable : Entry → Entry
  | .typed type _ => .typed type true
  | .failed diagnosis => .failed diagnosis

def isFailed : Entry → Bool
  | .failed _ => true
  | .typed .. => false

end Entry

namespace Shape

def empty : Shape := []

/-- Writes a key: in its place if it is there, else at the end. -/
def insert (key : String) (entry : Entry) (shape : Shape) : Shape :=
  Keyed.insert key entry shape

/-- Writes every key of another shape, in its order. -/
def merge (shape other : Shape) : Shape :=
  other.foldl (fun shape field => insert field.1 field.2 shape) shape

/-- The shape with every value possibly null. -/
def nullable (shape : Shape) : Shape := shape.map fun field => (field.1, field.2.nullable)

/-- What is known of a key, if it is there. -/
def get? (key : String) (shape : Shape) : Option Entry := Keyed.get? key shape

def contains (key : String) (shape : Shape) : Bool := (get? key shape).isSome

/-- The keys in order. -/
def keys (shape : Shape) : List String := Keyed.keys shape

end Shape

/-- The nested row of an embedding, be it one row or a list of rows. -/
def ValueType.object? : ValueType → Option Shape
  | .object fields => some fields
  | .array element => element.object?
  | _ => none

/-- The path of a key below another path. -/
def Shape.joinPath (path key : String) : String :=
  if path.isEmpty then key else path ++ "." ++ key

mutual

/-- The diagnoses inside a type, with the paths that lead to them. -/
def ValueType.errorsAt (path : String) : ValueType → List (String × Diagnosis)
  | .array element => element.errorsAt path
  | .object fields => Shape.errorsBelow path fields
  | _ => []

/-- The diagnoses of an entry. -/
def Entry.errorsAt (path : String) : Entry → List (String × Diagnosis)
  | .typed type _ => type.errorsAt path
  | .failed diagnosis => [(path, diagnosis)]

/-- The diagnoses of some keys, those of each key before those of the next. -/
def Shape.errorsBelow (path : String) : List (String × Entry) → List (String × Diagnosis)
  | [] => []
  | (key, entry) :: rest =>
    entry.errorsAt (Shape.joinPath path key) ++ Shape.errorsBelow path rest

end

/-- Every diagnosis in the shape, with the keys that lead to it joined by dots. -/
def Shape.errors (shape : Shape) : List (String × Diagnosis) := Shape.errorsBelow "" shape

end GatewayQuery
