/-
Pairs of texts as the query of a URL, in the form `application/x-www-form-urlencoded`: pairs are
joined by `&`, a key and its value by `=`, a space is written `+`, and every byte that is no letter,
digit or one of `*-._` is percent encoded.
-/
import GatewayQuery.Text.Split
import GatewayQuery.Url.Percent

namespace GatewayQuery.Url.Form

/-! ### Writing -/

/-- The characters that stand for themselves. -/
def keeps (c : Char) : Bool :=
  c.isAlphanum || c == '*' || c == '-' || c == '.' || c == '_'

/-- One character; a space is a plus. -/
def encodeChar (c : Char) : List Char :=
  if c = ' ' then ['+'] else percentEncode keeps [c]

/-- A key or a value. -/
def encode (text : List Char) : List Char := text.flatMap encodeChar

def encodePair (pair : String × String) : List Char :=
  encode pair.1.toList ++ '=' :: encode pair.2.toList

/-- Pairs after what is already there: a separator comes before every pair but the first of all. -/
def append (query : List Char) (pairs : List (String × String)) : List Char :=
  pairs.foldl (fun query pair =>
    (if query.isEmpty then query else query ++ ['&']) ++ encodePair pair) query

/-! ### Reading -/

/-- The key or value that was written. -/
def decode (text : List Char) : String :=
  let spaced := text.map fun c => if c = '+' then ' ' else c
  String.ofList (Text.decodeUtf8 (percentDecode (Text.utf8 spaced)))

/-- A key up to the first `=`, and the value after it, empty if there is none. -/
def decodePair (text : List Char) : String × String :=
  (decode (text.takeWhile (· != '=')), decode ((text.dropWhile (· != '=')).drop 1))

/-- The pairs of a query; what is empty between two separators is no pair. -/
def pairs (query : List Char) : List (String × String) :=
  ((Text.split '&' query).filter (!·.isEmpty)).map decodePair

end GatewayQuery.Url.Form
