/-
Domain names in ASCII.  A name is brought to the spelling in which names are compared; each of its
labels is checked as a reader sees it; and a label with characters beyond ASCII is written in
Punycode behind `xn--`.
-/
import GatewayQuery.Domain.Direction
import GatewayQuery.Domain.Joining
import GatewayQuery.Domain.Punycode
import GatewayQuery.Text.Composition

namespace GatewayQuery.Domain

/-- Whether a character of ASCII may stand in a name: no control, no space, and none that has a
meaning in a URL. -/
def isAllowed (c : Char) : Bool :=
  let meaningful := ['%', '#', '/', ':', '<', '>', '?', '@', '[', '\\', ']', '^', '|']
  0x20 < c.toNat && c.toNat != 0x7F && !meaningful.contains c

/-- The length of the longest label that is written in Punycode. -/
def longestLabel : Nat := 1000

/-- The length of the longest Punycode that is read. -/
def longestCode : Nat := 2000

/-- The text that a Punycode stands for, which has to be in the spelling of names. -/
def decodeLabel? (code : List Char) : Option (List Char) := do
  if code.getLast?.all (· == '-') || longestCode < code.length || !code.all isAscii then none
  let text ← Punycode.decode? code
  if text.all (fate · == .kept) && Text.compose text == text then some text else none

/-- A label as a reader sees it. -/
def shownLabel? : List Char → Option (List Char)
  | 'x' :: 'n' :: '-' :: '-' :: code => decodeLabel? code
  | label => some label

/-- Whether a label, as a reader sees it, is well formed. -/
def isLabel (label : List Char) : Bool :=
  label.all isAscii ||
    (label.length ≤ longestLabel && !label.head?.any Text.isMark && joinersFit [] label)

/-- A label in ASCII. -/
def asciiLabel (label : List Char) : List Char :=
  if label.all isAscii then label else ['x', 'n', '-', '-'] ++ Punycode.encode label

/-- The ASCII spelling of a name; nothing if it is no domain name. -/
def toAscii? (name : List Char) : Option (List Char) := do
  let text := Text.compose (← settle? name)
  if !text.all isAllowed then none
  let labels := Text.split '.' text
  let shown ← labels.mapM shownLabel?
  if !shown.all isLabel then none
  if shown.any turns && !shown.all isOneWay then none
  return ['.'].intercalate (labels.map asciiLabel)

end GatewayQuery.Domain
