/-
The shape of the rows that a select expression asks for.  The nodes of a level are taken in order,
each writes its keys into the shape of the level.  A node that fails writes its failure under its
own key and leaves its siblings alone; only a root that is not in the schema fails as a whole.

An embedding without nodes below it asks for no key, but it counts when the same key is embedded
again.  A spread of a row that may be missing makes all its columns nullable.
-/
import GatewayQuery.Resolution
import GatewayQuery.Schema.ValueType
import GatewayQuery.Select.Parser

namespace GatewayQuery

namespace Shape

open Schema (Index)
open Select (Field Node)

/-- The type of a column. -/
def columnEntry (schema : Schema) (column : Column) : Entry :=
  .typed (schema.valueType column.dataType) column.nullable

/-- The type of a field that is no embedding, or why it has none.  An aggregate is a number or what
it is cast to; a JSON path may always lead nowhere; the name `count` needs no column. -/
def leafType (schema : Schema) (relation : Relation) (field : Field) :
    Except Failure (ValueType × Bool) :=
  let column := relation.column? field.name
  match field.aggregate with
  | some aggregate =>
    if !aggregate.standalone && column.isNone && field.name != "count" then
      .error (.unknownColumn relation.name field.name)
    else .ok ((aggregate.cast.map schema.valueType).getD .number, false)
  | none =>
    let plain :=
      match column with
      | some column => some (schema.valueType column.dataType, column.nullable)
      | none => if field.name = "count" then some (.number, false) else none
    match plain with
    | none => .error (.unknownColumn relation.name field.name)
    | some plain =>
      let (type, nullable) :=
        match field.jsonPath with
        | some path => (if path.text then .string else .json, true)
        | none => plain
      .ok ((field.cast.map schema.valueType).getD type, nullable)

/-- The entry of a field that is no embedding. -/
def leafEntry (schema : Schema) (relation : Relation) (field : Field) : Entry :=
  match leafType schema relation field with
  | .ok (type, nullable) => .typed type nullable
  | .error failure => .ofFailure failure

/-- An embedding that was resolved, with the shape of its rows. -/
structure Embedded where
  resolution : Resolution
  cardinality : Cardinality
  nullable : Bool
  child : Shape

/-- One row as an object, many as an array of objects. -/
def Embedded.entry (embedded : Embedded) : Entry :=
  match embedded.cardinality with
  | .many => .typed (.array (.object embedded.child)) false
  | .one => .typed (.object embedded.child) embedded.nullable

/-- The columns of a spread row: nullable if the row may be missing. -/
def Embedded.columns (embedded : Embedded) : Shape :=
  if embedded.nullable then Shape.nullable embedded.child else embedded.child

/-- Resolves an embedding; `child` gives the shape of its nodes on the relation it leads to. -/
def embed (index : Index) (relation : Relation) (field : Field) (child : Relation → Shape) :
    Except Failure Embedded :=
  match resolve index relation.name field with
  | .error failure => .error failure
  | .ok resolution =>
    match index.relation? resolution.target with
    | none => .error (.unknownRelation resolution.target)
    | some target =>
      let (cardinality, nullable) := resolution.cardinality index field.innerJoin
      .ok ⟨resolution, cardinality, nullable, child target⟩

/-- A level while its nodes are taken: the shape so far, and the embeddings that were resolved,
with their keys. -/
structure Level where
  shape : Shape
  embedded : List (String × Resolution)

namespace Level

def empty : Level := ⟨Shape.empty, []⟩

/-- The level with an entry written. -/
def write (level : Level) (key : String) (entry : Entry) : Level :=
  { level with shape := Shape.insert key entry level.shape }

/-- Writes every column of a relation. -/
def writeStar (level : Level) (schema : Schema) (relation : Relation) : Level :=
  relation.columns.foldl (fun level column => level.write column.name (columnEntry schema column))
    level

/-- Whether an embedding without a hint repeats one of the level. -/
def repeats (level : Level) (field : Field) (resolution : Resolution) : Bool :=
  field.hint.isNone &&
    level.embedded.any fun (key, other) => key == field.outputName && other.sameAs resolution

/-- Writes an embedding under its key. -/
def writeEmbedding (level : Level) (relation : Relation) (field : Field) (isEmpty : Bool) :
    Except Failure Embedded → Level
  | .error failure => level.write field.outputName (.ofFailure failure)
  | .ok embedded =>
    let written :=
      if level.repeats field embedded.resolution then
        level.write field.outputName
          (.ofFailure (.duplicateEmbedding relation.name embedded.resolution.target))
      else if isEmpty then level
      else level.write field.outputName embedded.entry
    { written with embedded := level.embedded ++ [(field.outputName, embedded.resolution)] }

/-- Writes the columns of a spread row among those of the level. -/
def writeSpread (level : Level) (relation : Relation) (target : Field) :
    Except Failure Embedded → Level
  | .error failure => level.write target.outputName (.ofFailure failure)
  | .ok embedded =>
    match embedded.cardinality with
    | .many =>
      level.write target.outputName
        (.ofFailure (.illegalSpread relation.name embedded.resolution.target))
    | .one => { level with shape := Shape.merge level.shape embedded.columns }

end Level

mutual

/-- Writes what one node asks for. -/
def addNode (index : Index) (relation : Relation) (level : Level) : Node → Level
  | .star => level.writeStar index.schema relation
  | .field field children =>
    if field.embedded then
      level.writeEmbedding relation field children.isEmpty
        (embed index relation field fun target => (addNodes index target .empty children).shape)
    else level.write field.outputName (leafEntry index.schema relation field)
  | .spread target children =>
    level.writeSpread relation target
      (embed index relation target fun other => (addNodes index other .empty children).shape)

/-- Writes what some nodes ask for, one after the other. -/
def addNodes (index : Index) (relation : Relation) (level : Level) : List Node → Level
  | [] => level
  | node :: rest => addNodes index relation (addNode index relation level node) rest

end

/-- The shape of the nodes selected from a relation. -/
def ofLevel (index : Index) (relation : Relation) (nodes : List Node) : Shape :=
  (addNodes index relation .empty nodes).shape

/-- The shape of the nodes selected from the relation with the name. -/
def build (index : Index) (root : String) (nodes : List Node) : Except Failure Shape :=
  match index.relation? root with
  | none => .error (.unknownRelation root)
  | some relation => .ok (ofLevel index relation nodes)

end Shape

/-- Why there is no shape at all. -/
inductive SelectError where
  | parse (error : Select.ParseError)
  | shape (failure : Failure)
  deriving DecidableEq, Repr

def SelectError.message : SelectError → String
  | .parse error => "syntax error: " ++ error.describe
  | .shape failure => failure.message

/-- The shape of the rows that an expression selects from a relation. -/
def selectShape (schema : Schema) (root select : String) : Except SelectError Shape :=
  match Select.parse select with
  | .error error => .error (.parse error)
  | .ok nodes => (Shape.build (.of schema) root nodes).mapError .shape

end GatewayQuery
