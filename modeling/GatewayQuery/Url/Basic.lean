/-
URLs with a path of segments, and their text.  Every part is held as it is written, percent
encodings included, so the text of a URL is its parts put together.
-/
import GatewayQuery.Url.Form

namespace GatewayQuery

/-- Who and where: a name and a password if they are given, the host, and a port that is not the
usual one of the scheme. -/
structure Url.Authority where
  username : String
  password : String
  host : String
  port : Option Nat
  deriving DecidableEq, Repr

structure Url where
  scheme : String
  authority : Option Url.Authority
  /-- Whether a dot keeps the path apart from the scheme.  A path that begins with an empty segment
  and has no host in front of it needs the dot, or its second segment would read as a host; and the
  dot stays when segments come and go. -/
  dotted : Bool
  /-- The segments of the path, each written after a slash. -/
  path : List String
  query : Option String
  fragment : Option String
  deriving DecidableEq, Repr

namespace Url

/-- The schemes of the web, whose URLs always have a host and a path. -/
def isSpecialScheme (scheme : String) : Bool :=
  ["http", "https", "ws", "wss", "ftp", "file"].contains scheme

/-- The port that need not be written. -/
def defaultPort? : String → Option Nat
  | "http" | "ws" => some 80
  | "https" | "wss" => some 443
  | "ftp" => some 21
  | _ => none

def isSpecial (url : Url) : Bool := isSpecialScheme url.scheme

def isFile (url : Url) : Bool := url.scheme == "file"

/-! ### Text -/

/-- The part before the host, empty if nobody is named. -/
def Authority.userinfo (authority : Authority) : String :=
  if authority.username.isEmpty && authority.password.isEmpty then ""
  else
    authority.username ++
      (if authority.password.isEmpty then "" else ":" ++ authority.password) ++ "@"

def Authority.print (authority : Authority) : String :=
  authority.userinfo ++ authority.host ++
    match authority.port with
    | none => ""
    | some port => ":" ++ toString port

def printPath (path : List String) : String := String.join (path.map ("/" ++ ·))

/-- A part that is written after a mark if it is there. -/
def printMarked (mark : String) : Option String → String
  | none => ""
  | some text => mark ++ text

/-- The text of a URL. -/
def print (url : Url) : String :=
  url.scheme ++ ":" ++
    (match url.authority with
      | some authority => "//" ++ authority.print
      | none => "") ++
    (if url.dotted then "/." else "") ++
    printPath url.path ++ printMarked "?" url.query ++ printMarked "#" url.fragment

/-! ### Paths -/

/-- Characters that a URL never holds and that are passed over in reading. -/
def isDropped (c : Char) : Bool := c == '\t' || c == '\n' || c == '\r'

/-- A letter and a colon or bar. -/
def isDriveLetter (segment : String) : Bool :=
  match segment.toList with
  | [letter, mark] => letter.isAlpha && (mark == ':' || mark == '|')
  | _ => false

/-- Whether a segment keeps its place when the path goes up: it is a drive letter, or one with a
backslash after it. -/
def isAnchor (segment : String) : Bool :=
  match segment.toList with
  | letter :: mark :: '\\' :: _ => letter.isAlpha && (mark == ':' || mark == '|')
  | _ => isDriveLetter segment

def isSingleDot (segment : String) : Bool := [".", "%2e"].contains segment.toLower

def isDoubleDot (segment : String) : Bool :=
  ["..", "%2e%2e", "%2e.", ".%2e"].contains segment.toLower

/-- The path without its last segment, unless that keeps its place. -/
def parent (path : List String) : List String :=
  match path.getLast? with
  | none => []
  | some last => if isAnchor last then path else path.dropLast

/-- The path with a segment before which a slash stands: a dot stays where it is, two dots go up.
At the end of a path they leave an empty segment.  The path of a file may begin with a drive letter,
which is then written with a colon. -/
def addSegment (file : Bool) (path : List String) (segment : String) (last : Bool) :
    List String :=
  let close (path : List String) := if last then path ++ [""] else path
  if isDoubleDot segment then close (parent path)
  else if isSingleDot segment then close path
  else if file && path.isEmpty && isDriveLetter segment then
    [String.ofList (segment.toList.take 1 ++ [':'])]
  else path ++ [segment]

/-- A drive letter with its colon, and the text from which a dropped character parts it. -/
def cutDrive? (text : List Char) : Option (List Char × List Char) :=
  match text.filter (!isDropped ·) with
  | letter :: ':' :: c :: rest =>
    if letter.isAlpha && ((text.dropWhile (· != ':')).drop 1).head?.any isDropped then
      some ([letter, ':'], c :: rest)
    else none
  | _ => none

/-- The path with a segment that stands for a text.  Dropped characters are left out, but one after
the drive letter of a file ends its segment. -/
def addText (file : Bool) (keeps : Char → Bool) (path : List String) (text : List Char)
    (last : Bool) : List String :=
  let write (part : List Char) := String.ofList (percentEncode keeps part)
  match if file && path.isEmpty then cutDrive? text else none with
  | some (drive, rest) => [write drive, write rest]
  | none => addSegment file path (write (text.filter (!isDropped ·))) last

/-- The path with several segments, the last of them at its end. -/
def addTexts (file : Bool) (keeps : Char → Bool) (path : List String) :
    List (List Char) → List String
  | [] => path
  | text :: rest => addTexts file keeps (addText file keeps path text rest.isEmpty) rest

/-- The URL without an empty segment at the end of its path, unless it is the only one. -/
def popIfEmpty (url : Url) : Url :=
  if url.path.getLast? = some "" ∧ url.path ≠ [""] then { url with path := url.path.dropLast }
  else url

/-- The URL with one more segment that stands for a text.  An empty path of one empty segment is
filled, a dot or two dots add nothing. -/
def push (url : Url) (text : String) : Url :=
  if text = "." ∨ text = ".." then url
  else
    let path := if url.path = [""] then [] else url.path
    { url with path := addText url.isFile (segmentKeeps url.isSpecial) path text.toList true }

/-! ### Queries -/

/-- The URL with pairs added to its query.  Without pairs it stays as it is. -/
def addPairs (url : Url) (pairs : List (String × String)) : Url :=
  if pairs.isEmpty then url
  else { url with query := some (String.ofList (Form.append ((url.query.getD "").toList) pairs)) }

/-- The pairs of the query. -/
def pairs (url : Url) : List (String × String) := Form.pairs ((url.query.getD "").toList)

end Url

end GatewayQuery
