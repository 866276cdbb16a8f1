/-
The text of a JSON value: compact, members in their order, every character raw that may stand in a
string.
-/
import GatewayQuery.Json.Basic
import GatewayQuery.Binary64.Layout

namespace GatewayQuery.Json

/-- Doubles in JSON: without an exponent from `1e-5` to below `1e16`, and never without a fraction
there. -/
def realLayout : Binary64.Layout where
  positional point := -4 ≤ point && point ≤ 16
  wholeTail := ".0"
  tie := .toEven
  infinity := "null"
  notNumber := "null"

def Number.print : Number → String
  | .whole value => toString value
  | .real value => realLayout.write value

/-- A character inside a string: quote, backslash and controls are escaped, the rest is raw. -/
def escapedChar (c : Char) : List Char :=
  if c = '"' then ['\\', '"']
  else if c = '\\' then ['\\', '\\']
  else if c = '\x08' then ['\\', 'b']
  else if c = '\x0c' then ['\\', 'f']
  else if c = '\n' then ['\\', 'n']
  else if c = '\r' then ['\\', 'r']
  else if c = '\t' then ['\\', 't']
  else if c.toNat < 0x20 then
    ['\\', 'u', '0', '0', Nat.digitChar (c.toNat / 16), Nat.digitChar (c.toNat % 16)]
  else [c]

/-- A string with its quotes. -/
def printString (text : String) : String :=
  "\"" ++ String.ofList (text.toList.flatMap escapedChar) ++ "\""

mutual

def print : Json → String
  | .null => "null"
  | .bool value => if value then "true" else "false"
  | .number value => value.print
  | .string value => printString value
  | .array items => "[" ++ printItems items ++ "]"
  | .object members => "\x7b" ++ printMembers members ++ "\x7d"

/-- Items with commas between them. -/
def printItems : List Json → String
  | [] => ""
  | [item] => print item
  | item :: next :: rest => print item ++ "," ++ printItems (next :: rest)

/-- Members with commas between them. -/
def printMembers : List (String × Json) → String
  | [] => ""
  | [(key, value)] => printString key ++ ":" ++ print value
  | (key, value) :: next :: rest =>
    printString key ++ ":" ++ print value ++ "," ++ printMembers (next :: rest)

end

end GatewayQuery.Json
