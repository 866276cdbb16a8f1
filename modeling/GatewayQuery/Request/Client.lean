/-
Where requests go: the base URL of a gateway, the database schema to use, and headers for every
request.
-/
import GatewayQuery.Keyed
import GatewayQuery.Select.Parser
import GatewayQuery.Json.Basic
import GatewayQuery.Url.Reader

namespace GatewayQuery

/-- Why a request cannot be built. -/
inductive BuildError where
  /-- The base is no URL. -/
  | url (fault : Url.Fault)
  /-- The base is a URL without path segments. -/
  | cannotBeBase (text : String)
  | select (error : Select.ParseError)
  /-- The rows to insert are no object and no array of objects. -/
  | invalidValues
  /-- A range of rows ends before it starts. -/
  | invalidRange (first last : Nat)
  deriving DecidableEq, Repr

def BuildError.message : BuildError → String
  | .url fault => "invalid base URL: " ++ fault.message
  | .cannotBeBase text => "base URL '" ++ text ++ "' cannot have path segments"
  | .select error => "invalid select expression: " ++ error.describe
  | .invalidValues => "values must be a JSON object or an array of JSON objects"
  | .invalidRange first last =>
    "range end " ++ toString last ++ " is before range start " ++ toString first

/-- Names with their values; a name has one value. -/
abbrev Headers := List (String × String)

/-- The settings of a client. -/
structure Config where
  url : String
  schema : Option String
  headers : Headers
  deriving DecidableEq, Repr

namespace Config

def string? : Json → Option String
  | .string text => some text
  | _ => none

/-- A text, or nothing written as `null`. -/
def optional? : Json → Option (Option String)
  | .null => some none
  | .string text => some (some text)
  | _ => none

/-- Texts under their names. -/
def headers? : Json → Option Headers
  | .object members => members.mapM fun (name, value) => (string? value).map (name, ·)
  | _ => none

/-- The settings that a JSON value holds: an object in which only the URL has to be there, or a list
of URL, schema and headers of which the last ones may be missing. -/
def ofJson? : Json → Option Config
  | .object members => do
    let url ← (members.lookup "url").bind string?
    let schema ← ((members.lookup "schema").map optional?).getD (some none)
    let headers ← ((members.lookup "headers").map headers?).getD (some [])
    return ⟨url, schema, headers⟩
  | .array [url] => do
    return ⟨← string? url, none, []⟩
  | .array [url, schema] => do
    return ⟨← string? url, ← optional? schema, []⟩
  | .array [url, schema, headers] => do
    return ⟨← string? url, ← optional? schema, ← headers? headers⟩
  | _ => none

end Config

/-- What all requests to a gateway share. -/
structure Client where
  base : Url
  schema : Option String
  headers : Headers
  deriving DecidableEq, Repr

namespace Client

/-- A client with the settings, if their URL can carry a path. -/
def ofConfig (config : Config) : Except BuildError Client :=
  match Url.read config.url with
  | .error fault => .error (.url fault)
  | .ok none => .error (.cannotBeBase config.url)
  | .ok (some base) => .ok ⟨base, config.schema, config.headers⟩

/-- A client for a base URL. -/
def ofUrl (url : String) : Except BuildError Client := ofConfig ⟨url, none, []⟩

/-- The client, for another database schema. -/
def withSchema (client : Client) (name : String) : Client := { client with schema := some name }

/-- The client, with a header for every request. -/
def withHeader (client : Client) (name value : String) : Client :=
  { client with headers := Keyed.insert name value client.headers }

end Client

end GatewayQuery
