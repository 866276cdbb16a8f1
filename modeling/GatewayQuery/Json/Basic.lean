/-
JSON values.  The members of an object stand in a list, so a value remembers the order in which
it was written; `sortKeys` forgets it where only the content counts.
-/
import GatewayQuery.Binary64.Basic

namespace GatewayQuery

/-- A JSON number: whole while it fits sixty-four bits and is written without point and exponent,
a double otherwise. -/
inductive Json.Number where
  | whole (value : Int)
  | real (value : Binary64)
  deriving DecidableEq, Repr

inductive Json where
  | null
  | bool (value : Bool)
  | number (value : Json.Number)
  | string (value : String)
  | array (items : List Json)
  | object (members : List (String × Json))
  deriving Inhabited

namespace Json

/-- Adds a member in front of members that are sorted by key and were written after it: of two
members with one key the later stays. -/
def fileMember (key : String) (value : Json) : List (String × Json) → List (String × Json)
  | [] => [(key, value)]
  | (other, held) :: rest =>
    if key < other then (key, value) :: (other, held) :: rest
    else if key = other then (other, held) :: rest
    else (other, held) :: fileMember key value rest

mutual

/-- The value with the members of every object in the order of their keys, each key once with the
value written last. -/
def sortKeys : Json → Json
  | .null => .null
  | .bool value => .bool value
  | .number value => .number value
  | .string value => .string value
  | .array items => .array (sortItems items)
  | .object members => .object (sortMembers members)

def sortItems : List Json → List Json
  | [] => []
  | item :: rest => sortKeys item :: sortItems rest

def sortMembers : List (String × Json) → List (String × Json)
  | [] => []
  | (key, value) :: rest => fileMember key (sortKeys value) (sortMembers rest)

end

/-- The value of the first member with the key. -/
def get? (key : String) : Json → Option Json
  | .object members => members.lookup key
  | _ => none

end Json

end GatewayQuery
