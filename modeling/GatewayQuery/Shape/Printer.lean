/-
A shape as a type annotation, for people: braces with keys and types, arrays as `Array<…>`, and
`error("…")` where there is no type.

Keys, labels and messages stand between double quotes, where readable characters stand for
themselves and every character that could not be seen is spelled out.
-/
import GatewayQuery.Shape.Basic
import GatewayQuery.Select.Printer
import GatewayQuery.Text.CodePoints

namespace GatewayQuery

/-! ### Quotes -/

namespace Text

/-- A character inside quotes.  A quote, a backslash and the four common controls have short forms;
a mark that would join its neighbour, or a character without a shape, is given by its code point
in braces; all else is written raw. -/
def quotedChar (c : Char) : List Char :=
  if c = '\x00' then ['\\', '0']
  else if c = '\t' then ['\\', 't']
  else if c = '\r' then ['\\', 'r']
  else if c = '\n' then ['\\', 'n']
  else if c = '"' then ['\\', '"']
  else if c = '\\' then ['\\', '\\']
  else if isExtending c || unprintable.contains c then
    ['\\', 'u', '\x7b'] ++ Nat.toDigits 16 c.toNat ++ ['\x7d']
  else [c]

/-- The text in double quotes. -/
def quoted (text : String) : String :=
  "\"" ++ String.ofList (text.toList.flatMap quotedChar) ++ "\""

end Text

/-! ### Annotations -/

/-- A key, in quotes unless it is a bare name. -/
def Shape.printKey (key : String) : String :=
  if Select.isBareName key then key else Text.quoted key

mutual

def ValueType.print : ValueType → String
  | .number => "number"
  | .string => "string"
  | .boolean => "boolean"
  | .json => "Json"
  | .record => "Record<string, unknown>"
  | .void => "undefined"
  | .unknown => "unknown"
  | .enumeration labels => " | ".intercalate (labels.map Text.quoted)
  | .array element => "Array<" ++ element.print ++ ">"
  | .object fields =>
    if fields.isEmpty then "\x7b\x7d" else "\x7b " ++ Shape.printFields fields ++ " \x7d"

def Entry.print : Entry → String
  | .typed type nullable => type.print ++ if nullable then " | null" else ""
  | .failed diagnosis => "error(" ++ Text.quoted diagnosis.message ++ ")"

/-- Keys and entries with commas between them. -/
def Shape.printFields : List (String × Entry) → String
  | [] => ""
  | [(key, entry)] => Shape.printKey key ++ ": " ++ entry.print
  | (key, entry) :: next :: rest =>
    Shape.printKey key ++ ": " ++ entry.print ++ ", " ++ Shape.printFields (next :: rest)

end

/-- The annotation of a whole row. -/
def Shape.print (shape : Shape) : String := (ValueType.object shape).print

end GatewayQuery
