/-
Finished requests.  A draft becomes a request unless something went wrong on the way; the select
expression is parsed here, so that no malformed one is ever sent.
-/
import GatewayQuery.Request.Draft
import GatewayQuery.Shape.Build

namespace GatewayQuery

/-- A request that can be sent. -/
structure Request where
  method : Method
  url : Url
  headers : Headers
  body : Option Json
  response : Response

namespace Request

/-- The parameters of the URL, decoded, in order. -/
def params (request : Request) : List (String × String) := request.url.pairs

/-- The first value of a parameter. -/
def param? (request : Request) (name : String) : Option String := request.params.lookup name

/-- The value of a header. -/
def header? (request : Request) (name : String) : Option String :=
  Keyed.get? name request.headers

end Request

namespace Draft

/-- The URL of the relation, with the parameters. -/
def url (draft : Draft) : Url :=
  (draft.client.base.popIfEmpty.push draft.relation).addPairs draft.params

/-- What the request prefers, the return of rows first. -/
def allPreferences (draft : Draft) : List String :=
  (draft.returning.map Returning.preference).toList ++ draft.preferences

/-- Whether the answer is to be an object and no list. -/
def wantsObject (draft : Draft) : Bool :=
  match draft.response with
  | .rows => false
  | .single => true
  | .maybeSingle => !draft.method.isRead

/-- Headers with one more, if there is a value for it. -/
def addHeader (name : String) (value : Option String) (headers : Headers) : Headers :=
  match value with
  | none => headers
  | some value => Keyed.insert name value headers

/-- The headers of the client and those that the draft adds. -/
def headers (draft : Draft) : Headers :=
  let profile := if draft.method.isRead then "Accept-Profile" else "Content-Profile"
  let preferences :=
    if draft.allPreferences.isEmpty then none else some (",".intercalate draft.allPreferences)
  let object := if draft.wantsObject then some "application/vnd.pgrst.object+json" else none
  addHeader "Accept" object
    (addHeader "Prefer" preferences
      (addHeader "Content-Type" (draft.body.map fun _ => "application/json")
        (addHeader profile draft.client.schema draft.client.headers)))

/-- The request, or the first thing that went wrong.  That the base cannot have path segments is
none of these: a `Url` has a path to push on, and `Client.ofConfig` turns a base without one away
with `BuildError.cannotBeBase`, before there is a draft. -/
def build (draft : Draft) : Except BuildError Request :=
  match draft.fault with
  | some fault => .error fault
  | none =>
    let request : Request :=
      ⟨draft.method, draft.url, draft.headers, draft.body, draft.response⟩
    match draft.select with
    | none => .ok request
    | some select =>
      match Select.parse select with
      | .error error => .error (.select error)
      | .ok _ => .ok request

/-- The shape of the rows that the request gives back; a write that selects nothing gives none. -/
def shape (draft : Draft) (schema : Schema) : Except SelectError Shape :=
  match draft.select with
  | none => .ok Shape.empty
  | some select => selectShape schema draft.relation select

end Draft

end GatewayQuery
