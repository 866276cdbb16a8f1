/-
Reading a URL from text.  The parts are told apart by the marks between them; a scheme of the web
takes a backslash for a slash and any number of slashes before its host.  Tabs and line ends are
passed over.
-/
import GatewayQuery.Url.Host

namespace GatewayQuery.Url

namespace Reader

/-- The text without controls and spaces at its ends. -/
def tidy (text : List Char) : List Char :=
  let outer (c : Char) := c.toNat ≤ 0x20
  ((text.dropWhile outer).reverse.dropWhile outer).reverse

/-- The text without the characters that a URL never holds. -/
def plain (text : List Char) : List Char := text.filter (!isDropped ·)

def isSchemeChar (c : Char) : Bool := c.isAlphanum || c == '+' || c == '-' || c == '.'

/-- The scheme in lower case, and what follows its colon. -/
def scheme? (text : List Char) : Option (String × List Char) :=
  match text with
  | [] => none
  | c :: _ =>
    match c.isAlpha, text.dropWhile isSchemeChar with
    | true, ':' :: rest =>
      some (String.ofList ((text.takeWhile isSchemeChar).map Char.toLower), rest)
    | _, _ => none

/-- Whether a character separates the segments of a path. -/
def isSlash (special : Bool) (c : Char) : Bool := c == '/' || (special && c == '\\')

/-- Whether a character ends the part of a URL that names its host. -/
def endsAuthority (special : Bool) (c : Char) : Bool := isSlash special c || c == '?' || c == '#'

/-- The text before and after the last at sign. -/
def splitUser? (text : List Char) : Option (List Char × List Char) :=
  match text.reverse.dropWhile (· != '@') with
  | [] => none
  | _ :: before => some (before.reverse, (text.reverse.takeWhile (· != '@')).reverse)

/-- A name and a password, which follows the first colon. -/
def user (text : List Char) : String × String :=
  let encode (part : List Char) := String.ofList (percentEncode userinfoKeeps part)
  (encode (text.takeWhile (· != ':')), encode ((text.dropWhile (· != ':')).drop 1))

/-- The host and what follows it: a colon ends it, outside brackets. -/
def splitHost (bracketed : Bool) : List Char → List Char × List Char
  | [] => ([], [])
  | c :: rest =>
    if c = ':' ∧ !bracketed then ([], c :: rest)
    else
      let inside := if c = '[' then true else if c = ']' then false else bracketed
      let (host, after) := splitHost inside rest
      (c :: host, after)

/-- A port and what follows it.  The usual port of the scheme is not kept. -/
def port (scheme : String) (text : List Char) : Except Fault (Option Nat × List Char) :=
  let digits := text.takeWhile Char.isDigit
  let after := text.dropWhile Char.isDigit
  let number := digits.foldl (fun total c => total * 10 + (c.toNat - 48)) 0
  let ends :=
    match after with
    | [] => true
    | c :: _ => c == '/' || c == '\\' || c == '?' || c == '#'
  if 65535 < number || !ends then .error .port
  else if digits.isEmpty ∨ defaultPort? scheme = some number then .ok (none, after)
  else .ok (some number, after)

/-- The user, the host and the port, and what follows them. -/
def authority (scheme : String) (text : List Char) : Except Fault (Authority × List Char) := do
  let special := isSpecialScheme scheme
  let named := text.takeWhile (!endsAuthority special ·)
  let after := text.dropWhile (!endsAuthority special ·)
  let (who, place) := (splitUser? named).getD ([], named)
  if (splitUser? named).isSome ∧ who.isEmpty ∧ place.isEmpty ∧ !after.isEmpty then
    throw .emptyHost
  let (username, password) := user who
  let (hostText, portText) := splitHost false place
  if special ∧ hostText.isEmpty then throw .emptyHost
  let host ← Host.read special hostText
  if host.isEmpty ∧ !portText.isEmpty then throw .emptyHost
  let (number, rest) ←
    match portText with
    | ':' :: digits => port scheme (digits ++ after)
    | _ => .ok (none, after)
  if host.isEmpty ∧ !(username.isEmpty && password.isEmpty) then throw .emptyHost
  return (⟨username, password, host, number⟩, rest)

/-- The text of a path, and the query and the fragment after it. -/
def splitPath (text : List Char) : List Char × List Char :=
  let isMark (c : Char) := c == '?' || c == '#'
  (text.takeWhile (!isMark ·), text.dropWhile (!isMark ·))

/-- The text between the slashes of a path. -/
def segmentTexts (special : Bool) (text : List Char) : List (List Char) :=
  Text.split '/' (text.map fun c => if isSlash special c then '/' else c)

/-- Segments, the first at the front of the text, with their dots resolved. -/
def segments (special : Bool) (text : List Char) : List String :=
  addTexts false pathKeeps [] (segmentTexts special text)

/-- The path after a host, which begins with a slash if it is there at all; on the web it always
is. -/
def pathAfterHost (special : Bool) (text : List Char) : List String :=
  match text with
  | [] => if special then [""] else []
  | c :: rest => segments special (if isSlash special c then rest else c :: rest)

/-- The URL with the query and the fragment that follow its path. -/
def finish (scheme : String) (authority : Option Authority) (path : List String)
    (marked : List Char) : Url :=
  let special := isSpecialScheme scheme
  let encode (keeps : Char → Bool) (part : List Char) :=
    String.ofList (percentEncode keeps (plain part))
  let queryText := (marked.takeWhile (· != '#')).drop 1
  let hasQuery := marked.head? = some '?'
  let fragmentText := marked.dropWhile (· != '#')
  { scheme := scheme
    authority := authority
    dotted := authority.isNone && path.head? == some "" && 1 < path.length
    path := path
    query := if hasQuery then some (encode (queryKeeps special) queryText) else none
    fragment := if fragmentText.isEmpty then none
      else some (encode fragmentKeeps (fragmentText.drop 1)) }

/-! ### Files -/

/-- What follows a slash. -/
def afterSlash? (text : List Char) : Option (List Char) :=
  match text.dropWhile isDropped with
  | [] => none
  | c :: rest => if isSlash true c then some rest else none

/-- Whether the first of the segments that follow a path is a drive letter once the path is read up
to it. -/
def namesDrive (path : List String) : List (List Char) → Bool
  | [] => false
  | text :: rest =>
    (path.isEmpty && isDriveLetter (String.ofList (plain text))) ||
      namesDrive (addText true pathKeeps path text rest.isEmpty) rest

/-- A file on a host.  A drive letter at the front of the path says that the host is this one. -/
def fileOn (host : String) (text : List Char) : Url :=
  let (pathText, marked) := splitPath text
  let texts := segmentTexts true pathText
  let path := (addTexts true pathKeeps [] texts).dropWhile (·.isEmpty)
  finish "file" (some ⟨"", "", if namesDrive [] texts then "" else host, none⟩)
    (if path.isEmpty then [""] else path) marked

/-- A file.  Its host is the text between two slashes and the next, unless that is a drive letter;
`localhost` is nowhere.  Where no host stands the slash after it begins an empty segment, which does
not count but keeps a drive letter from being the first. -/
def file (text : List Char) : Except Fault Url :=
  match afterSlash? text with
  | none => .ok (fileOn "" text)
  | some rest =>
    match afterSlash? rest with
    | none => .ok (fileOn "" rest)
    | some rest =>
      let hostText := plain (rest.takeWhile (!endsAuthority true ·))
      let after := rest.dropWhile (!endsAuthority true ·)
      if isDriveLetter (String.ofList hostText) then .ok (fileOn "" rest)
      else if hostText.isEmpty then .ok (fileOn "" after)
      else
        (Host.read true hostText).map fun host =>
          if host = "localhost" then fileOn "" after
          else fileOn host ((afterSlash? after).getD after)

end Reader

open Reader in
/-- The URL that a text holds; nothing if it is one without path segments, such as the address of a
mailbox. -/
def read (text : String) : Except Fault (Option Url) :=
  let tidied := tidy text.toList
  match scheme? (plain tidied) with
  | none => .error .relative
  | some ("file", _) => (file ((tidied.dropWhile (· != ':')).drop 1)).map some
  | some (scheme, rest) =>
    let special := isSpecialScheme scheme
    let onHost (text : List Char) :=
      (Reader.authority scheme text).map fun (authority, after) =>
        let (pathText, marked) := splitPath after
        some (finish scheme (some authority) (pathAfterHost special pathText) marked)
    if special then onHost (rest.dropWhile (isSlash true))
    else
      match rest with
      | '/' :: '/' :: rest => onHost rest
      | '/' :: rest =>
        let (pathText, marked) := splitPath rest
        .ok (some (finish scheme none (segments false pathText) marked))
      | _ => .ok none

end GatewayQuery.Url
