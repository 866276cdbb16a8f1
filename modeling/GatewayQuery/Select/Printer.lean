/-
The text of a tree.  A name is written bare where it can be, and in quotes where it would otherwise
be read as something else.
-/
import GatewayQuery.Select.Node
import GatewayQuery.Select.Token

namespace GatewayQuery.Select

/-- A name in quotes. -/
def quotedName (name : String) : String := "\"" ++ name ++ "\""

/-- Whether a name may stand without quotes. -/
def isBareName (name : String) : Bool := !name.isEmpty && name.toList.all isNameChar

/-- A name, bare if it may be. -/
def printName (name : String) : String := if isBareName name then name else quotedName name

/-- A name at a place where the reserved words mean something else when bare. -/
def printUnreserved (reserved : List String) (name : String) : String :=
  if reserved.contains name then quotedName name else printName name

/-- A cast, if there is one. -/
def printCast : Option String → String
  | none => ""
  | some name => "::" ++ printName name

/-- The steps of a JSON path; the last arrow tells whether text is wanted. -/
def printKeys (text : Bool) : List String → String
  | [] => ""
  | [key] => (if text then "->>" else "->") ++ printName key
  | key :: next :: rest => "->" ++ printName key ++ printKeys text (next :: rest)

namespace Field

def printAlias (field : Field) : String :=
  match field.key with
  | none => ""
  | some key => printName key ++ ":"

/-- The name of an embedding.  An empty one called `count` is quoted: bare, it would count rows. -/
def printRelation (field : Field) (empty : Bool) : String :=
  if empty then printUnreserved ["count"] field.name else printName field.name

/-- The hint and the kind of join.  A hint that is a word for a kind of join is quoted. -/
def printHints (field : Field) : String :=
  (match field.hint with
    | none => ""
    | some hint => "!" ++ printUnreserved ["inner", "left"] hint) ++
  if field.innerJoin then "!inner" else ""

/-- What follows the name of a column. -/
def printTail (field : Field) : String :=
  (match field.jsonPath with
    | none => ""
    | some path => printKeys path.text path.keys) ++
  printCast field.cast ++
  match field.aggregate with
  | none => ""
  | some aggregate => "." ++ aggregate.function.name ++ "()" ++ printCast aggregate.cast

/-- A field, given the text of the nodes below it and whether there are none.  The count of rows
shows nothing but its cast. -/
def print (field : Field) (empty : Bool) (children : String) : String :=
  field.printAlias ++
  match field.aggregate.filter (·.standalone) with
  | some aggregate => aggregate.function.name ++ "()" ++ printCast aggregate.cast
  | none =>
    if field.embedded then
      field.printRelation empty ++ field.printHints ++ "(" ++ children ++ ")"
    else printName field.name ++ field.printTail

end Field

namespace Node

mutual

/-- The text of a node. -/
def print : Node → String
  | .star => "*"
  | .field item children => item.print children.isEmpty (printList children)
  | .spread target children => "..." ++ target.print children.isEmpty (printList children)

/-- Nodes with commas between them. -/
def printList : List Node → String
  | [] => ""
  | [node] => print node
  | node :: next :: rest => print node ++ "," ++ printList (next :: rest)

end

end Node

end GatewayQuery.Select
