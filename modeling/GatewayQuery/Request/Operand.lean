/-
The right-hand sides of filters.  A gateway reads an operand as text; lists are written between
parentheses or braces, with commas between the items.
-/
import GatewayQuery.Json.Printer

namespace GatewayQuery

/-- A value to compare a column with. -/
inductive Operand where
  | text (value : String)
  | flag (value : Bool)
  | whole (value : Int)
  | real (value : Binary64)
  | json (value : Json)

namespace Operand

/-- Doubles in operands: all digits, never an exponent, and no fraction for a whole number. -/
def realLayout : Binary64.Layout where
  positional _ := true
  wholeTail := ""
  tie := .toLarger
  infinity := "inf"
  notNumber := "NaN"

/-- A JSON value as an operand: a string without its quotes, anything else as JSON text. -/
def printJson : Json → String
  | .string value => value
  | value => value.print

def print : Operand → String
  | .text value => value
  | .flag value => if value then "true" else "false"
  | .whole value => toString value
  | .real value => realLayout.write value
  | .json value => printJson value

/-- Whether a character has a meaning between the items of a list. -/
def isReserved (c : Char) : Bool := c == ',' || c == '(' || c == ')'

/-- An item of a list, in quotes if it holds a reserved character. -/
def quoteReserved (item : String) : String :=
  if item.toList.any isReserved then "\"" ++ item ++ "\"" else item

/-- A list to choose from. -/
def printChoice (values : List Operand) : String :=
  "(" ++ ",".intercalate (values.map fun value => quoteReserved value.print) ++ ")"

/-- The literal of a database array. -/
def arrayLiteral (items : List String) : String :=
  "\x7b" ++ ",".intercalate items ++ "\x7d"

/-- What a column contains or is contained in: the items of a list as an array literal, a string
as it is, anything else as JSON. -/
def printContainer : Json → String
  | .array items => arrayLiteral (items.map printJson)
  | value => printJson value

end Operand

end GatewayQuery
