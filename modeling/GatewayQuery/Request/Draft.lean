/-
Requests in the making.  An operation starts a draft, calls add to it.  A draft keeps the first
thing that went wrong; everything else that a call says is kept in the order of the calls, in one
list of parameters that filters are added to and settings are written into.

Reading and writing are told apart by the type of an operation and of its calls: only what writes
can be asked to give back rows by a select of its own.
-/
import GatewayQuery.Request.Client
import GatewayQuery.Request.Filter
import GatewayQuery.Select.Clean
import GatewayQuery.Select.Printer

namespace GatewayQuery

/-- The method of a request. -/
inductive Method where
  | get
  | head
  | post
  | patch
  | delete
  deriving DecidableEq, Repr

def Method.name : Method → String
  | .get => "GET"
  | .head => "HEAD"
  | .post => "POST"
  | .patch => "PATCH"
  | .delete => "DELETE"

/-- Whether the method only reads. -/
def Method.isRead : Method → Bool
  | .get | .head => true
  | _ => false

/-- How rows are counted. -/
inductive Count where
  | exact
  | planned
  | estimated
  deriving DecidableEq, Repr

/-- The preference that asks for a count. -/
def Count.preference : Count → String
  | .exact => "count=exact"
  | .planned => "count=planned"
  | .estimated => "count=estimated"

/-- What a write gives back. -/
inductive Returning where
  | minimal
  | representation
  deriving DecidableEq, Repr

def Returning.preference : Returning → String
  | .minimal => "return=minimal"
  | .representation => "return=representation"

/-- What the answer is to be read as. -/
inductive Response where
  | rows
  /-- One row as an object. -/
  | single
  /-- One row or none.  A read still gives a list. -/
  | maybeSingle
  deriving DecidableEq, Repr

/-- Whether an operation reads or writes. -/
inductive Access where
  | read
  | write
  deriving DecidableEq, Repr

/-- What a request begins with. -/
inductive Operation : Access → Type where
  | select (columns : String) (head : Bool) (count : Option Count) : Operation .read
  | insert (values : Json) (count : Option Count) (defaultToNull : Bool) : Operation .write
  | upsert (values : Json) (onConflict : Option String) (ignoreDuplicates : Bool)
      (count : Option Count) (defaultToNull : Bool) : Operation .write
  | update (values : Json) (count : Option Count) : Operation .write
  | delete (count : Option Count) : Operation .write

/-- What may be added to a request. -/
inductive Call : Access → Type where
  | filter {access : Access} (filter : Filter) : Call access
  /-- Orders by a column, after the columns that were named before. -/
  | order {access : Access} (column : String) (ascending : Bool) (nullsFirst : Option Bool)
      (table : Option String) : Call access
  | limit {access : Access} (count : Nat) (table : Option String) : Call access
  /-- The rows from the first to the last, both counted from zero and included. -/
  | range {access : Access} (first last : Nat) (table : Option String) : Call access
  | single {access : Access} : Call access
  | maybeSingle {access : Access} : Call access
  /-- Gives back the rows that were written. -/
  | select (columns : String) : Call .write

/-- A request in the making. -/
structure Draft where
  method : Method
  client : Client
  relation : String
  returning : Option Returning
  preferences : List String
  params : List (String × String)
  /-- The select expression given last, in the form in which it is sent. -/
  select : Option String
  body : Option Json
  response : Response
  /-- The first thing that went wrong. -/
  fault : Option BuildError

namespace Draft

/-- A draft of which only the method and the target are known. -/
def blank (client : Client) (relation : String) (method : Method) (returning : Option Returning) :
    Draft where
  method := method
  client := client
  relation := relation
  returning := returning
  preferences := []
  params := []
  select := none
  body := none
  response := .rows
  fault := none

/-- Keeps a fault, unless there is one. -/
def fail (draft : Draft) (fault : BuildError) : Draft :=
  { draft with fault := draft.fault.or (some fault) }

/-- Writes a setting: the first parameter with the name is replaced. -/
def set (draft : Draft) (name value : String) : Draft :=
  { draft with params := Keyed.insert name value draft.params }

/-- Adds parameters, whatever their names. -/
def add (draft : Draft) (params : List (String × String)) : Draft :=
  { draft with params := draft.params ++ params }

def prefer (draft : Draft) (preferences : List String) : Draft :=
  { draft with preferences := draft.preferences ++ preferences }

/-- Sets the select expression. -/
def setSelect (draft : Draft) (columns : String) : Draft :=
  let cleaned := Select.clean columns
  { draft.set "select" cleaned with select := some cleaned }

def setBody (draft : Draft) (values : Json) : Draft := { draft with body := some values }

/-! ### Rows -/

/-- The keys of a row, if it is one. -/
def rowKeys? : Json → Option (List String)
  | .object members => some (members.map (·.1))
  | _ => none

/-- Every key of some rows, once, in the order of first occurrence; nothing if one is no row. -/
def columnsOf? (rows : List Json) : Option (List String) :=
  (rows.mapM rowKeys?).map fun keys => keys.flatten.eraseDups

/-- Column names in quotes, with commas between them. -/
def printColumns (columns : List String) : String :=
  ",".intercalate (columns.map Select.quotedName)

/-- Sets the rows to insert.  For several rows the columns are listed, so that a row may lack
some. -/
def setRows (draft : Draft) (values : Json) : Draft :=
  match values with
  | .object _ => draft.setBody values
  | .array rows =>
    match columnsOf? rows with
    | none => draft.fail .invalidValues
    | some columns => (draft.set "columns" (printColumns columns)).setBody values
  | _ => draft.fail .invalidValues

/-! ### Starting -/

def countPreference (count : Option Count) : List String := (count.map Count.preference).toList

/-- Asks that missing keys take the default of their column. -/
def missingPreference (defaultToNull : Bool) : List String :=
  if defaultToNull then [] else ["missing=default"]

def resolutionPreference (ignoreDuplicates : Bool) : String :=
  if ignoreDuplicates then "resolution=ignore-duplicates" else "resolution=merge-duplicates"

/-- The draft that an operation on a relation begins. -/
def start (client : Client) (relation : String) {access : Access} : Operation access → Draft
  | .select columns head count =>
    ((blank client relation (if head then .head else .get) none).setSelect columns).prefer
      (countPreference count)
  | .insert values count defaultToNull =>
    ((blank client relation .post (some .minimal)).prefer
      (countPreference count ++ missingPreference defaultToNull)).setRows values
  | .upsert values onConflict ignoreDuplicates count defaultToNull =>
    (((blank client relation .post (some .minimal)).prefer
      (resolutionPreference ignoreDuplicates ::
        (countPreference count ++ missingPreference defaultToNull))).add
      (onConflict.map ("on_conflict", ·)).toList).setRows values
  | .update values count =>
    ((blank client relation .patch (some .minimal)).prefer (countPreference count)).setBody values
  | .delete count =>
    (blank client relation .delete (some .minimal)).prefer (countPreference count)

/-! ### Adding -/

/-- One term of an order. -/
def orderTerm (column : String) (ascending : Bool) (nullsFirst : Option Bool) : String :=
  column ++ (if ascending then ".asc" else ".desc") ++
    match nullsFirst with
    | none => ""
    | some true => ".nullsfirst"
    | some false => ".nullslast"

/-- Adds a term to an order, or begins one. -/
def addOrder (draft : Draft) (name term : String) : Draft :=
  let extend (order : Option String) :=
    match order with
    | none => term
    | some terms => terms ++ "," ++ term
  { draft with params := Keyed.alter name extend draft.params }

/-- The draft after a call. -/
def apply {access : Access} (draft : Draft) : Call access → Draft
  | .filter filter => draft.add filter.parameters
  | .order column ascending nullsFirst table =>
    draft.addOrder (onTable "order" table) (orderTerm column ascending nullsFirst)
  | .limit count table => draft.set (onTable "limit" table) (toString count)
  | .range first last table =>
    if last < first then draft.fail (.invalidRange first last)
    else
      -- Row numbers have 64 bits.  The range from 0 to the greatest of them, `2 ^ 64 - 1`, is left
      -- out: it holds one row more than a limit of 64 bits can say.
      (draft.set (onTable "offset" table) (toString first)).set (onTable "limit" table)
        (toString (last - first + 1))
  | .single => { draft with response := .single }
  | .maybeSingle => { draft with response := .maybeSingle }
  | .select columns => { draft.setSelect columns with returning := some .representation }

/-- The draft after several calls. -/
def applyAll {access : Access} (draft : Draft) (calls : List (Call access)) : Draft :=
  calls.foldl apply draft

end Draft

end GatewayQuery
