/-
What attributes say.  Three attributes are known, each with keys that stand alone and keys that take
a string; everything in them is checked in the order in which it is written, and the first thing
that does not fit is reported.
-/
import GatewayQuery.Record.Item

namespace GatewayQuery.Record

/-- Why a type does not describe a relation. -/
inductive Fault where
  /-- A key that takes a string has no value. -/
  | expectedEquals
  /-- A key that stands alone has a value. -/
  | expectedComma
  /-- The value of a key is no string. -/
  | expectedString
  /-- An attribute has a value where entries should be. -/
  | expectedParentheses (name : String)
  /-- An attribute that needs entries has none. -/
  | expectedArguments (name : String)
  | unknownKey (name : String)
  /-- A reference does not say what to. -/
  | missingRelation
  /-- The database type of a field is neither given nor known. -/
  | unknownType
  | unnamedFields
  | notStruct
  deriving DecidableEq, Repr

def Fault.message : Fault → String
  | .expectedEquals => "expected `=`"
  | .expectedComma => "expected `,`"
  | .expectedString => "expected a string literal"
  | .expectedParentheses name => "expected parentheses: #[" ++ name ++ "(...)]"
  | .expectedArguments name =>
    "expected attribute arguments in parentheses: #[" ++ name ++ "(...)]"
  | .unknownKey name => "unknown " ++ name ++ " attribute"
  | .missingRelation => "#[references] requires relation = \"...\""
  | .unknownType => "cannot infer the PostgreSQL type; add #[column(pg_type = \"...\")]"
  | .unnamedFields => "Relation derive only supports structs with named fields"
  | .notStruct => "Relation derive only supports structs"

/-- An attribute that has a meaning, with its keys. -/
structure Vocabulary where
  name : String
  /-- The keys that take a string. -/
  texts : List String
  /-- The keys that stand alone. -/
  flags : List String

/-- What is said of a relation. -/
def Vocabulary.relation : Vocabulary := ⟨"relation", ["name"], ["view"]⟩

/-- What is said of a column. -/
def Vocabulary.column : Vocabulary := ⟨"column", ["name", "pg_type"], ["nullable"]⟩

/-- What is said of a foreign key. -/
def Vocabulary.references : Vocabulary :=
  ⟨"references", ["relation", "column", "fkey"], ["one_to_one"]⟩

/-- Keys that were written, with their strings if they take one, in order. -/
abbrev Settings := List (String × Option String)

namespace Settings

/-- The string given last for a key. -/
def text? (settings : Settings) (key : String) : Option String :=
  (settings.reverse.find? (·.1 == key)).bind (·.2)

/-- Whether a key was written. -/
def has (settings : Settings) (key : String) : Bool := settings.any (·.1 == key)

end Settings

namespace Vocabulary

/-- Checks one entry. -/
def setting (vocabulary : Vocabulary) (entry : Entry) : Except Fault (String × Option String) :=
  if vocabulary.texts.contains entry.key then
    match entry.value with
    | some (.text value) => .ok (entry.key, some value)
    | some .other => .error .expectedString
    | none => .error .expectedEquals
  else if vocabulary.flags.contains entry.key then
    match entry.value with
    | some _ => .error .expectedComma
    | none => .ok (entry.key, none)
  else .error (.unknownKey vocabulary.name)

/-- Checks an attribute of the vocabulary; `bare` is what it means without arguments. -/
def settingsOf (vocabulary : Vocabulary) (bare : Except Fault Settings) :
    Arguments → Except Fault Settings
  | .none => bare
  | .value _ => .error (.expectedParentheses vocabulary.name)
  | .entries entries => entries.mapM vocabulary.setting

/-- All that the attributes of the vocabulary say; without arguments they say nothing. -/
def settings (vocabulary : Vocabulary) (attributes : List Attribute) : Except Fault Settings :=
  ((attributes.filter (·.name == vocabulary.name)).mapM fun written =>
    vocabulary.settingsOf (.ok []) written.arguments).map List.flatten

end Vocabulary

end GatewayQuery.Record
