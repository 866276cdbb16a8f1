/-
The tree of a select expression.  A node asks for every column, for one field, or for the columns
of a related row spliced into this one.  A field holds what is written about it; the nodes below an
embedding stand beside it in the tree.
-/

namespace GatewayQuery.Select

/-- Functions that sum up a column over the rows of a group. -/
inductive AggregateFunction where
  | count
  | sum
  | avg
  | min
  | max
  deriving DecidableEq, Repr

namespace AggregateFunction

/-- The name of the function in an expression, which is also the key of its result. -/
def name : AggregateFunction → String
  | .count => "count"
  | .sum => "sum"
  | .avg => "avg"
  | .min => "min"
  | .max => "max"

/-- The function with the name. -/
def ofName? : String → Option AggregateFunction
  | "count" => some .count
  | "sum" => some .sum
  | "avg" => some .avg
  | "min" => some .min
  | "max" => some .max
  | _ => none

@[simp] theorem ofName?_name (function : AggregateFunction) :
    ofName? function.name = some function := by
  cases function <;> rfl

end AggregateFunction

/-- An aggregate over a field. -/
structure Aggregate where
  function : AggregateFunction
  /-- The type that the result is cast to. -/
  cast : Option String
  /-- Whether rows are counted and no column. -/
  standalone : Bool
  deriving DecidableEq, Repr

/-- Steps into a JSON column. -/
structure JsonPath where
  /-- The keys, the outermost first. -/
  keys : List String
  /-- Whether the last step gives text and not JSON. -/
  text : Bool
  deriving DecidableEq, Repr

namespace JsonPath

/-- The innermost key, empty if there is none. -/
def last (path : JsonPath) : String := path.keys.getLast?.getD ""

/-- The keys with dots between them. -/
def joined (path : JsonPath) : String := ".".intercalate path.keys

end JsonPath

/-- What is written about one field of the result. -/
structure Field where
  /-- The column, or the relation of an embedding. -/
  name : String
  /-- The key of the result, if another one is wanted. -/
  key : Option String
  /-- The foreign key to take, named in one of three ways. -/
  hint : Option String
  cast : Option String
  aggregate : Option Aggregate
  jsonPath : Option JsonPath
  /-- Whether rows without a related row are left out. -/
  innerJoin : Bool
  /-- Whether the field was written with parentheses, be they empty. -/
  embedded : Bool
  deriving DecidableEq, Repr

namespace Field

/-- A column and nothing else about it. -/
def column (name : String) : Field where
  name := name
  key := none
  hint := none
  cast := none
  aggregate := none
  jsonPath := none
  innerJoin := false
  embedded := false

/-- The count of the rows. -/
def rowCount (key cast : Option String) : Field where
  name := AggregateFunction.count.name
  key := key
  hint := none
  cast := none
  aggregate := some ⟨.count, cast, true⟩
  jsonPath := none
  innerJoin := false
  embedded := false

/-- An embedded relation. -/
def embedding (name : String) (key hint : Option String) (innerJoin : Bool) : Field where
  name := name
  key := key
  hint := hint
  cast := none
  aggregate := none
  jsonPath := none
  innerJoin := innerJoin
  embedded := true

/-- The key of the field in the result: the one that is asked for, else the innermost JSON key, else
the name of the aggregate function, else its own name. -/
def outputName (field : Field) : String :=
  match field.key, field.jsonPath, field.aggregate with
  | some key, _, _ => key
  | none, some path, _ => path.last
  | none, none, some aggregate => aggregate.function.name
  | none, none, none => field.name

end Field

/-- A node of a select expression. -/
inductive Node where
  /-- Every column. -/
  | star
  /-- A column, or a related row or rows under a key of their own. -/
  | field (field : Field) (children : List Node)
  /-- A related row whose columns are spliced into this one. -/
  | spread (target : Field) (children : List Node)
  deriving Inhabited, Repr

namespace Node

mutual

/-- Whether two nodes are the same. -/
def same : Node → Node → Bool
  | .star, .star => true
  | .field a as, .field b bs => a == b && sameList as bs
  | .spread a as, .spread b bs => a == b && sameList as bs
  | _, _ => false

def sameList : List Node → List Node → Bool
  | [], [] => true
  | a :: as, b :: bs => same a b && sameList as bs
  | _, _ => false

end

mutual

theorem same_iff : ∀ a b : Node, same a b = true ↔ a = b
  | .star, .star => by simp [same]
  | .star, .field .. => by simp [same]
  | .star, .spread .. => by simp [same]
  | .field .., .star => by simp [same]
  | .field a as, .field b bs => by simp [same, sameList_iff as bs]
  | .field .., .spread .. => by simp [same]
  | .spread .., .star => by simp [same]
  | .spread .., .field .. => by simp [same]
  | .spread a as, .spread b bs => by simp [same, sameList_iff as bs]

theorem sameList_iff : ∀ as bs : List Node, sameList as bs = true ↔ as = bs
  | [], [] => by simp [sameList]
  | [], _ :: _ => by simp [sameList]
  | _ :: _, [] => by simp [sameList]
  | a :: as, b :: bs => by simp [sameList, same_iff a b, sameList_iff as bs]

end

instance : DecidableEq Node := fun a b => decidable_of_iff (same a b = true) (same_iff a b)

end Node

end GatewayQuery.Select
