/-
Percent encoding: a byte as a percent sign and two hexadecimal digits.  Each part of a URL has
characters that it keeps as they are; characters beyond ASCII are never kept.
-/
import GatewayQuery.Text.Utf8

namespace GatewayQuery.Url

/-- An upper-case hexadecimal digit. -/
def hexDigit (n : Nat) : Char := (Nat.digitChar n).toUpper

/-- A byte in percent encoding. -/
def percentByte (byte : UInt8) : List Char :=
  ['%', hexDigit (byte.toNat / 16), hexDigit (byte.toNat % 16)]

/-- The characters, those that are not kept in percent encoding. -/
def percentEncode (keeps : Char → Bool) (cs : List Char) : List Char :=
  cs.flatMap fun c => if keeps c then [c] else (Text.utf8 [c]).flatMap percentByte

/-- The value of a hexadecimal digit. -/
def hexValue? (byte : UInt8) : Option Nat :=
  let n := byte.toNat
  if 48 ≤ n ∧ n ≤ 57 then some (n - 48)
  else if 65 ≤ n ∧ n ≤ 70 then some (n - 55)
  else if 97 ≤ n ∧ n ≤ 102 then some (n - 87)
  else none

/-- The bytes with every percent encoding undone; a percent sign without two digits stays. -/
def percentDecode : List UInt8 → List UInt8
  | [] => []
  | [byte] => [byte]
  | [first, second] => [first, second]
  | byte :: high :: low :: rest =>
    if byte = 0x25 then
      match hexValue? high, hexValue? low with
      | some a, some b => UInt8.ofNat (a * 16 + b) :: percentDecode rest
      | _, _ => byte :: percentDecode (high :: low :: rest)
    else byte :: percentDecode (high :: low :: rest)

/-! ### What each part keeps -/

/-- A printable ASCII character. -/
def isPlain (c : Char) : Bool := 0x20 ≤ c.toNat && c.toNat ≤ 0x7E

/-- A host that is not a domain name keeps everything printable. -/
def hostKeeps (c : Char) : Bool := isPlain c

def fragmentKeeps (c : Char) : Bool :=
  isPlain c && !(c == ' ' || c == '"' || c == '<' || c == '>' || c == '\x60')

/-- The schemes of the web encode an apostrophe in a query as well. -/
def queryKeeps (special : Bool) (c : Char) : Bool :=
  isPlain c && !(c == ' ' || c == '"' || c == '#' || c == '<' || c == '>') &&
    !(special && c == '\'')

def pathKeeps (c : Char) : Bool :=
  fragmentKeeps c && !(c == '#' || c == '?' || c == '\x7b' || c == '\x7d')

/-- A segment that is pushed onto a path must not read as several. -/
def segmentKeeps (special : Bool) (c : Char) : Bool :=
  pathKeeps c && !(c == '/' || c == '%') && !(special && c == '\\')

def userinfoKeeps (c : Char) : Bool :=
  pathKeeps c && !(c == '/' || c == ':' || c == ';' || c == '=' || c == '@' || c == '[' ||
    c == '\\' || c == ']' || c == '^' || c == '|')

end GatewayQuery.Url
