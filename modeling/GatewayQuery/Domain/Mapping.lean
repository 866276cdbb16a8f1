/-
What becomes of a character that somebody writes in a domain name.  Names are compared by how they
read, and so a capital letter is replaced by the small one, a variant of a letter by the plain
letter, and a character that cannot be seen is left out.  Some characters no name may hold.
-/
import GatewayQuery.Domain.Replacement.Forms
import GatewayQuery.Domain.Replacement.Ideographs
import GatewayQuery.Domain.Replacement.Letters
import GatewayQuery.Domain.Replacement.Supplement
import GatewayQuery.Domain.Replacement.Symbols
import GatewayQuery.Text.CodePoints

namespace GatewayQuery.Domain

/-- What becomes of a character in a name. -/
inductive Fate where
  | kept
  /-- Other characters stand in its place, or none at all. -/
  | replaced (text : List Char)
  | refused
  deriving DecidableEq, Repr

/-- Characters that are left out: soft hyphens, fillers, variation selectors, and controls of layout
and of shorthand. -/
def ignored : Text.CodePoints := .ofRanges [
  (0xAD, 0xAD), (0x34F, 0x34F), (0x115F, 0x1160), (0x17B4, 0x17B5), (0x180B, 0x180F),
  (0x200B, 0x200B), (0x2060, 0x2064), (0x206A, 0x206F), (0x3164, 0x3164), (0xFE00, 0xFE0F),
  (0xFEFF, 0xFEFF), (0xFFA0, 0xFFA0), (0x1BCA0, 0x1BCA3), (0x1D173, 0x1D17A), (0xE0100, 0xE01EF)]

/-- Characters with a shape that are refused: leaders, numbers with a full stop or comma, the
characters that describe ideographs, and replacement characters. -/
def barred : Text.CodePoints := .ofRanges [
  (0x2024, 0x2026), (0x2488, 0x249B), (0x2FF0, 0x2FFF), (0x31EF, 0x31EF), (0x33C2, 0x33C2),
  (0x33C7, 0x33C7), (0x33D8, 0x33D8), (0xFE12, 0xFE12), (0xFE19, 0xFE19), (0xFE30, 0xFE30),
  (0xFE52, 0xFE52), (0xFFFC, 0xFFFD), (0x1F100, 0x1F100)]

/-- The text that stands for a character beyond ASCII. -/
def replacement? (c : Char) : Option (List Char) :=
  [Replacement.letters, Replacement.symbols, Replacement.ideographs, Replacement.forms,
    Replacement.supplement].findSome? (·.text? c)

/-- Keeps letters that would join apart. -/
def nonJoiner : Char := '\u200C'

/-- Makes letters join that would not. -/
def joiner : Char := '\u200D'

def isAscii (c : Char) : Bool := c.toNat < 0x80

/-- What becomes of a character.  Of ASCII only the capital letters change. -/
def fate (c : Char) : Fate :=
  if isAscii c then if c.isUpper then .replaced [c.toLower] else .kept
  else if c = nonJoiner ∨ c = joiner then .kept
  else if ignored.contains c then .replaced []
  else
    match replacement? c with
    | some text => .replaced text
    | none => if Text.unprintable.contains c || barred.contains c then .refused else .kept

/-- The text with every character as names have it, unless one is refused. -/
def settle? (text : List Char) : Option (List Char) :=
  (text.mapM fun c =>
    match fate c with
    | .kept => some [c]
    | .replaced text => some text
    | .refused => none).map List.flatten

end GatewayQuery.Domain
