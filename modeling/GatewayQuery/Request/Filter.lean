/-
Filters: conditions on the rows of a request.  Each is one query parameter, the column and what is
asked of it, except for a match of several columns, which is one parameter for each.
-/
import GatewayQuery.Request.Operand

namespace GatewayQuery

/-- How a column compares with a value. -/
inductive Comparison where
  | equal
  | notEqual
  | greater
  | greaterOrEqual
  | less
  | lessOrEqual
  deriving DecidableEq, Repr

def Comparison.operator : Comparison → String
  | .equal => "eq"
  | .notEqual => "neq"
  | .greater => "gt"
  | .greaterOrEqual => "gte"
  | .less => "lt"
  | .lessOrEqual => "lte"

/-- Whether a pattern tells capital letters from small ones. -/
inductive LetterCase where
  | sensitive
  | insensitive
  deriving DecidableEq, Repr

def LetterCase.operator : LetterCase → String
  | .sensitive => "like"
  | .insensitive => "ilike"

/-- How many of several patterns have to match. -/
inductive Quantifier where
  | all
  | any
  deriving DecidableEq, Repr

def Quantifier.mark : Quantifier → String
  | .all => "(all)"
  | .any => "(any)"

/-- How an array, range or JSON column relates to a value of its kind. -/
inductive Containment where
  | contains
  | containedBy
  | overlaps
  deriving DecidableEq, Repr

def Containment.operator : Containment → String
  | .contains => "cs"
  | .containedBy => "cd"
  | .overlaps => "ov"

/-- How a range column lies beside a range. -/
inductive RangeRelation where
  /-- Wholly to the right. -/
  | after
  /-- Not to the left of its start. -/
  | notBefore
  /-- Wholly to the left. -/
  | before
  /-- Not to the right of its end. -/
  | notAfter
  | adjacent
  deriving DecidableEq, Repr

def RangeRelation.operator : RangeRelation → String
  | .after => "sr"
  | .notBefore => "nxl"
  | .before => "sl"
  | .notAfter => "nxr"
  | .adjacent => "adj"

/-- The language of a text search. -/
inductive TextSearch where
  | query
  | plain
  | phrase
  | websearch
  deriving DecidableEq, Repr

def TextSearch.operator : TextSearch → String
  | .query => "fts"
  | .plain => "plfts"
  | .phrase => "phfts"
  | .websearch => "wfts"

/-- A condition on rows. -/
inductive Filter where
  | compare (comparison : Comparison) (column : String) (value : Operand)
  | like (letters : LetterCase) (column pattern : String)
  | likeEach (letters : LetterCase) (quantifier : Quantifier) (column : String)
      (patterns : List String)
  /-- Whether a column is null, true or false. -/
  | is (column : String) (value : Option Bool)
  /-- Whether a column is one of some values. -/
  | among (column : String) (values : List Operand)
  | contain (containment : Containment) (column : String) (value : Json)
  | range (relation : RangeRelation) (column bounds : String)
  | textSearch (kind : TextSearch) (config : Option String) (column query : String)
  /-- Whether each column equals its value. -/
  | matchAll (pairs : List (String × Operand))
  /-- The opposite of a condition that is spelled out. -/
  | not (column operator : String) (value : Operand)
  /-- A disjunction in the notation of the gateway, on the rows or on those of an embedding. -/
  | or (filters : String) (table : Option String)
  /-- A condition that is spelled out. -/
  | raw (column operator : String) (value : Operand)

/-- The name of a setting, on the rows or on those of an embedding. -/
def onTable (name : String) : Option String → String
  | none => name
  | some table => table ++ "." ++ name

namespace Filter

/-- A column with an operator and what stands on its right. -/
def parameter (column operator value : String) : String × String :=
  (column, operator ++ "." ++ value)

/-- The parameters of a filter. -/
def parameters : Filter → List (String × String)
  | .compare comparison column value => [parameter column comparison.operator value.print]
  | .like letters column pattern => [parameter column letters.operator pattern]
  | .likeEach letters quantifier column patterns =>
    [parameter column (letters.operator ++ quantifier.mark) (Operand.arrayLiteral patterns)]
  | .is column value =>
    let word :=
      match value with
      | none => "null"
      | some true => "true"
      | some false => "false"
    [parameter column "is" word]
  | .among column values => [parameter column "in" (Operand.printChoice values)]
  | .contain containment column value =>
    [parameter column containment.operator (Operand.printContainer value)]
  | .range relation column bounds => [parameter column relation.operator bounds]
  | .textSearch kind config column query =>
    let operator :=
      match config with
      | none => kind.operator
      | some config => kind.operator ++ "(" ++ config ++ ")"
    [parameter column operator query]
  | .matchAll pairs =>
    pairs.map fun (column, value) => parameter column Comparison.equal.operator value.print
  | .not column operator value => [parameter column ("not." ++ operator) value.print]
  | .or filters table => [(onTable "or" table, "(" ++ filters ++ ")")]
  | .raw column operator value => [parameter column operator value.print]

end Filter

end GatewayQuery
