/-
Hosts.  Between brackets stands an IPv6 address.  Elsewhere a scheme of the web wants a domain
name, or an IPv4 address if the last label is a number; any other scheme takes nearly any text.
-/
import GatewayQuery.Domain.Name
import GatewayQuery.Url.Basic

namespace GatewayQuery.Url

/-- Why a text is no URL. -/
inductive Fault where
  /-- There is no scheme. -/
  | relative
  | emptyHost
  | port
  | ipv4
  | ipv6
  /-- The host is no domain name. -/
  | domain
  /-- The host holds a character that no host may hold. -/
  | hostCharacter
  deriving DecidableEq, Repr

def Fault.message : Fault → String
  | .relative => "relative URL without a base"
  | .emptyHost => "empty host"
  | .port => "invalid port number"
  | .ipv4 => "invalid IPv4 address"
  | .ipv6 => "invalid IPv6 address"
  | .domain => "invalid international domain name"
  | .hostCharacter => "invalid domain character"

namespace Host

/-- The value of a digit in some base up to sixteen. -/
def digit? (base : Nat) (c : Char) : Option Nat :=
  let value :=
    if c.isDigit then c.toNat - 48
    else if 'a' ≤ c ∧ c ≤ 'f' then c.toNat - 87
    else if 'A' ≤ c ∧ c ≤ 'F' then c.toNat - 55
    else base
  if value < base then some value else none

/-- The number that digits denote, no digits denoting zero. -/
def number? (base : Nat) (digits : List Char) : Option Nat :=
  digits.foldlM (fun total c => (digit? base c).map (total * base + ·)) 0

/-! ### IPv4 -/

/-- A part of an address: hexadecimal after `0x`, octal after a zero, else decimal. -/
def ipv4Number? (part : List Char) : Option Nat :=
  match part with
  | [] => none
  | '0' :: 'x' :: digits => number? 16 digits
  | '0' :: 'X' :: digits => number? 16 digits
  | ['0'] => some 0
  | '0' :: digits => number? 8 digits
  | digits => number? 10 digits

/-- The labels of a name; an empty one at its end does not count. -/
def labels (name : List Char) : List (List Char) :=
  let parts := Text.split '.' name
  if 1 < parts.length ∧ parts.getLast? = some [] then parts.dropLast else parts

/-- Whether a name has to be an address: its last label is a number. -/
def endsInNumber (name : List Char) : Bool :=
  match (labels name).getLast? with
  | none => false
  | some last =>
    (!last.isEmpty && last.all Char.isDigit) || (ipv4Number? last).isSome

/-- The address as one number: the last part fills all the bytes that the parts before it leave. -/
def ipv4? (name : List Char) : Option Nat := do
  let parts ← (labels name).mapM ipv4Number?
  let last ← parts.getLast?
  let bytes := parts.dropLast
  if 4 < parts.length ∨ bytes.any (255 < ·) ∨ Nat.pow 256 (4 - bytes.length) ≤ last then none
  else some (bytes.foldr (fun byte total => total / 256 + byte * Nat.pow 256 3) 0 + last)

def printIpv4 (address : Nat) : String :=
  ".".intercalate ([3, 2, 1, 0].map fun place => toString (address / Nat.pow 256 place % 256))

/-! ### IPv6 -/

/-- One group of up to four hexadecimal digits. -/
def ipv6Group? (text : List Char) : Option Nat :=
  if text.isEmpty ∨ 4 < text.length then none else number? 16 text

/-- A byte in decimal, without needless zeros. -/
def ipv6Byte? (text : List Char) : Option Nat := do
  let value ← number? 10 text
  if text.isEmpty ∨ 255 < value ∨ (1 < text.length ∧ text.head? = some '0') then none
  else some value

/-- The last two groups written as an IPv4 address. -/
def ipv6Tail? (text : List Char) : Option (List Nat) := do
  match ← (Text.split '.' text).mapM ipv6Byte? with
  | [a, b, c, d] => some [a * 256 + b, c * 256 + d]
  | _ => none

/-- The groups between colons; the last of the address may be an IPv4 address. -/
def ipv6Groups? (final : Bool) (text : List Char) : Option (List Nat) :=
  if text.isEmpty then some []
  else do
    let parts := Text.split ':' text
    let last ← parts.getLast?
    let before ← parts.dropLast.mapM ipv6Group?
    let after ←
      if final && last.contains '.' then ipv6Tail? last else (ipv6Group? last).map ([·])
    return before ++ after

/-- The text before and after the first two colons that stand together. -/
def splitGap : List Char → Option (List Char × List Char)
  | [] => none
  | [_] => none
  | ':' :: ':' :: rest => some ([], rest)
  | c :: rest => (splitGap rest).map fun (before, after) => (c :: before, after)

/-- The eight groups of an address; two colons stand for at least one group of zeros. -/
def ipv6? (text : List Char) : Option (List Nat) := do
  match splitGap text with
  | none =>
    let groups ← ipv6Groups? true text
    if groups.length = 8 then some groups else none
  | some (before, after) =>
    let head ← ipv6Groups? false before
    let tail ← ipv6Groups? true after
    let known := head.length + tail.length
    if known < 8 then some (head ++ List.replicate (8 - known) 0 ++ tail) else none

/-- The length of the run of zeros that some groups begin with. -/
def zeros (groups : List Nat) : Nat := (groups.takeWhile (· == 0)).length

def printGroups (groups : List Nat) : String :=
  ":".intercalate (groups.map fun group => String.ofList (Nat.toDigits 16 group))

/-- The groups in hexadecimal; the first of the longest runs of two zeros or more is left out. -/
def printIpv6 (groups : List Nat) : String :=
  let places := List.range groups.length
  let longest := (places.map fun place => zeros (groups.drop place)).foldl max 0
  if longest < 2 then printGroups groups
  else
    match places.find? fun place => zeros (groups.drop place) == longest with
    | none => printGroups groups
    | some place =>
      printGroups (groups.take place) ++ "::" ++ printGroups (groups.drop (place + longest))

/-- The address between brackets. -/
def bracketed (text : List Char) : Except Fault String :=
  if text.getLast? = some ']' then
    match ipv6? text.dropLast with
    | some groups => .ok ("[" ++ printIpv6 groups ++ "]")
    | none => .error .ipv6
  else .error .ipv6

/-! ### Names -/

/-- The characters that no host may hold. -/
def isForbidden (c : Char) : Bool :=
  ['\x00', '\t', '\n', '\r', ' ', '#', '/', ':', '<', '>', '?', '@', '[', '\\', ']', '^',
    '|'].contains c

/-- A domain name or an IPv4 address, its percent encodings undone and in ASCII. -/
def domain (text : List Char) : Except Fault String :=
  match Domain.toAscii? (Text.decodeUtf8 (percentDecode (Text.utf8 text))) with
  | none => .error .domain
  | some name =>
    if name.isEmpty then .error .emptyHost
    else if endsInNumber name then
      match ipv4? name with
      | some address => .ok (printIpv4 address)
      | none => .error .ipv4
    else .ok (String.ofList name)

/-- The host of a URL outside the web: any text without forbidden characters. -/
def other (text : List Char) : Except Fault String :=
  if text.any isForbidden then .error .hostCharacter
  else .ok (String.ofList (percentEncode hostKeeps text))

/-- The host that a text names. -/
def read (special : Bool) (text : List Char) : Except Fault String :=
  match text with
  | '[' :: rest => bracketed rest
  | _ => if special then domain text else other text

end Host

end GatewayQuery.Url
