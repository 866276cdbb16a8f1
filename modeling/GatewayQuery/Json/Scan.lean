/-
The tokens of JSON text.  A scan takes characters from the front and returns what it read with the
characters that are left; the type of the rest says that it is shorter, which is what ends the
loops built on it.

A scan that fails says how: the text is no JSON there, the value is JSON of another type than the
one wanted, or the text ends too early.  The first thing that goes wrong, read from the left, is
the one reported.
-/
import GatewayQuery.Json.Basic
import GatewayQuery.Text.Span

namespace GatewayQuery.Json

/-- Why reading failed. -/
inductive Fault where
  /-- The text is not JSON at this point. -/
  | malformed
  /-- The text is JSON, but not of the form wanted. -/
  | mistyped
  /-- The text ends before the value does. -/
  | truncated
  deriving DecidableEq, Repr

/-- What is left of the characters after some of them were read. -/
abbrev Rest (cs : List Char) := { rest : List Char // rest.length < cs.length }

/-- What is left after some or none of them were read. -/
abbrev Tail (cs : List Char) := { rest : List Char // rest.length ≤ cs.length }

/-- What is left after the first character. -/
def Rest.tail (c : Char) (rest : List Char) : Rest (c :: rest) := ⟨rest, Nat.lt_succ_self _⟩

/-- What is left of what was left. -/
def Rest.after {cs : List Char} (rest : Rest cs) (left : Rest rest.val) : Rest cs :=
  ⟨left.val, Nat.lt_trans left.property rest.property⟩

/-- What is left after the first two characters. -/
def Rest.second (c d : Char) (rest : List Char) : Rest (c :: d :: rest) :=
  Rest.after (Rest.tail c (d :: rest)) (Rest.tail d rest)

theorem Rest.le {cs : List Char} (rest : Rest cs) : rest.val.length ≤ cs.length :=
  Nat.le_of_lt rest.property

/-- What is left, without the promise that something was read. -/
def Rest.toTail {cs : List Char} (rest : Rest cs) : Tail cs := ⟨rest.val, rest.le⟩

/-- What is left after a first character, seen from behind that character. -/
def Rest.behind {c : Char} {cs : List Char} (rest : Rest (c :: cs)) : Tail cs :=
  ⟨rest.val, Nat.le_of_lt_succ rest.property⟩

/-- All the characters. -/
def Tail.all (cs : List Char) : Tail cs := ⟨cs, Nat.le_refl _⟩

/-- A reader of one value. -/
abbrev Reader (α : Type) := (cs : List Char) → Except Fault (α × Rest cs)

namespace Read

/-- The rest of a shorter text is a rest of the longer one. -/
def within {α : Type} {small large : List Char} (h : small.length ≤ large.length) :
    Except Fault (α × Rest small) → Except Fault (α × Rest large)
  | .error fault => .error fault
  | .ok (value, rest) => .ok (value, ⟨rest.val, Nat.lt_of_lt_of_le rest.property h⟩)

def isSpace (c : Char) : Bool := c == ' ' || c == '\n' || c == '\t' || c == '\r'

/-- The text without the spaces in front. -/
def dropSpace (cs : List Char) : List Char := cs.dropWhile isSpace

theorem length_dropSpace_le (cs : List Char) : (dropSpace cs).length ≤ cs.length :=
  (List.dropWhile_suffix isSpace).sublist.length_le

theorem length_lt_of_dropSpace {cs rest : List Char} {c : Char} (h : dropSpace cs = c :: rest) :
    rest.length < cs.length := by
  have := length_dropSpace_le cs
  rw [h] at this
  exact Nat.lt_of_succ_le this

/-- The characters of a word, one after the other. -/
def word : (expected : List Char) → (cs : List Char) → Except Fault (Tail cs)
  | [], cs => .ok (Tail.all cs)
  | _ :: _, [] => .error .truncated
  | e :: es, c :: cs =>
    if c = e then (word es cs).map fun rest => ⟨rest.val, Nat.le_succ_of_le rest.property⟩
    else .error .malformed

/-! ### Strings -/

/-- The value of a hexadecimal digit. -/
def hexValue? (c : Char) : Option Nat :=
  if '0' ≤ c ∧ c ≤ '9' then some (c.toNat - 48)
  else if 'a' ≤ c ∧ c ≤ 'f' then some (c.toNat - 87)
  else if 'A' ≤ c ∧ c ≤ 'F' then some (c.toNat - 55)
  else none

/-- Four hexadecimal digits.  Fewer than four bytes of text are too few, whatever they are. -/
def fourHex (cs : List Char) : Except Fault (Nat × Rest cs) :=
  if Text.byteLength cs < 4 then .error .truncated
  else
    match cs with
    | a :: b :: c :: d :: rest =>
      match hexValue? a, hexValue? b, hexValue? c, hexValue? d with
      | some a, some b, some c, some d =>
        .ok (((a * 16 + b) * 16 + c) * 16 + d, ⟨rest, by simp only [List.length_cons]; omega⟩)
      | _, _, _, _ => .error .malformed
    | _ => .error .malformed

def isLeading (unit : Nat) : Bool := 0xD800 ≤ unit && unit ≤ 0xDBFF

def isTrailing (unit : Nat) : Bool := 0xDC00 ≤ unit && unit ≤ 0xDFFF

/-- The second half of a pair of surrogates, written as an escape of its own. -/
def trailingUnit (cs : List Char) : Except Fault (Nat × Rest cs) :=
  match cs with
  | [] => .error .truncated
  | '\\' :: [] => .error .truncated
  | '\\' :: 'u' :: rest =>
    match fourHex rest with
    | .error fault => .error fault
    | .ok (unit, left) =>
      if isTrailing unit then
        .ok (unit, Rest.after (Rest.second '\\' 'u' rest) left)
      else .error .malformed
  | _ => .error .malformed

/-- The character of a `\u` escape, after the `u`.  Surrogates count in pairs only. -/
def unicodeEscape (cs : List Char) : Except Fault (Char × Rest cs) :=
  match fourHex cs with
  | .error fault => .error fault
  | .ok (unit, rest) =>
    if isTrailing unit then .error .malformed
    else if isLeading unit then
      match trailingUnit rest.val with
      | .error fault => .error fault
      | .ok (second, left) =>
        .ok (Char.ofNat (0x10000 + (unit - 0xD800) * 0x400 + (second - 0xDC00)),
          Rest.after rest left)
    else .ok (Char.ofNat unit, rest)

/-- The character that a letter after a backslash stands for. -/
def shortEscape? : Char → Option Char
  | '"' => some '"'
  | '\\' => some '\\'
  | '/' => some '/'
  | 'b' => some '\x08'
  | 'f' => some '\x0c'
  | 'n' => some '\n'
  | 'r' => some '\r'
  | 't' => some '\t'
  | _ => none

/-- The character of an escape, after the backslash. -/
def escape (cs : List Char) : Except Fault (Char × Rest cs) :=
  match cs with
  | [] => .error .truncated
  | 'u' :: rest => within (by simp) (unicodeEscape rest)
  | c :: rest =>
    match shortEscape? c with
    | some value => .ok (value, Rest.tail c rest)
    | none => .error .malformed

/-- The characters of a string, after its opening quote and through its closing one. -/
def stringTail (cs : List Char) : Except Fault (List Char × Rest cs) :=
  match cs with
  | [] => .error .truncated
  | '"' :: rest => .ok ([], Rest.tail '"' rest)
  | '\\' :: rest =>
    match escape rest with
    | .error fault => .error fault
    | .ok (c, left) =>
      match stringTail left.val with
      | .error fault => .error fault
      | .ok (text, last) =>
        .ok (c :: text, Rest.after (Rest.after (Rest.tail '\\' rest) left) last)
  | c :: rest =>
    if c.toNat < 0x20 then .error .malformed
    else
      match stringTail rest with
      | .error fault => .error fault
      | .ok (text, last) => .ok (c :: text, Rest.after (Rest.tail c rest) last)
termination_by cs.length
decreasing_by
  · exact (Rest.after (Rest.tail '\\' rest) left).property
  · exact (Rest.tail c rest).property

/-! ### Numbers -/

/-- A number as it is written. -/
structure Literal where
  negative : Bool
  whole : List Char
  fraction : Option (List Char)
  exponent : Option (Bool × List Char)
  deriving Repr

/-- Appends digits to a significand while it fits sixty-four bits; the digits that do not fit are
left. -/
def gather (significand : Nat) : List Char → Nat × List Char
  | [] => (significand, [])
  | d :: rest =>
    let longer := significand * 10 + (d.toNat - 48)
    if longer < Nat.pow 2 64 then gather longer rest else (significand, d :: rest)

/-- The number denoted by digits. -/
def digitsValue (digits : List Char) : Nat :=
  digits.foldl (fun total d => total * 10 + (d.toNat - 48)) 0

/-- The double with the given significand and power of ten, unless it is too large. -/
def real? (negative : Bool) (significand : Nat) (power : Int) : Option Number :=
  ((Binary64.Magnitude.ofRatio significand 1).scale? power).map fun magnitude =>
    .real (Binary64.ofMagnitude negative magnitude)

/-- The value of a literal.  Without point and exponent it is whole while it fits sixty-four bits,
minus zero apart.  Otherwise as many digits as fit sixty-four bits make the significand, the others
count only by their place, and the power of ten is applied to the rounded significand.  A value
beyond the largest double has none. -/
def Literal.value? (literal : Literal) : Option Number :=
  let (significand, beyond) := gather 0 literal.whole
  match literal.fraction, literal.exponent with
  | none, none =>
    if beyond ≠ [] then real? literal.negative significand beyond.length
    else if !literal.negative then some (.whole significand)
    else if significand = 0 then some (.real Binary64.negativeZero)
    else if significand ≤ Nat.pow 2 63 then some (.whole (-(significand : Int)))
    else real? true significand 0
  | fraction, exponent =>
    let places := fraction.getD []
    let (significand, unread) := gather significand places
    let power : Int := (beyond.length : Int) - ((places.length - unread.length : Nat) : Int)
    match exponent with
    | none => real? literal.negative significand power
    | some (down, digits) =>
      let shift := digitsValue digits
      if shift < Nat.pow 2 31 then
        real? literal.negative significand (if down then power - shift else power + shift)
      else if significand = 0 ∨ down then real? literal.negative 0 0
      else none

/-- Digits, at least one: where there is none the text is too short or wrong. -/
def digits (cs : List Char) : Except Fault (List Char × Rest cs) :=
  match cs with
  | [] => .error .truncated
  | c :: rest =>
    if c.isDigit then
      .ok (c :: rest.takeWhile Char.isDigit, ⟨rest.dropWhile Char.isDigit, by
        have := (List.dropWhile_suffix (l := rest) Char.isDigit).sublist.length_le
        simp only [List.length_cons]
        omega⟩)
    else .error .malformed

/-- The digits before the point: a zero stands alone. -/
def wholeDigits (cs : List Char) : Except Fault (List Char × Rest cs) :=
  match cs with
  | '0' :: c :: rest =>
    if c.isDigit then .error .malformed else .ok (['0'], Rest.tail '0' (c :: rest))
  | cs => digits cs

/-- A point and the digits after it, if there is a point. -/
def fractionDigits (cs : List Char) : Except Fault (Option (List Char) × Tail cs) :=
  match cs with
  | '.' :: rest =>
    (digits rest).map fun (found, left) =>
      (some found, ⟨left.val, Nat.le_of_lt (Nat.lt_succ_of_lt left.property)⟩)
  | cs => .ok (none, Tail.all cs)

/-- The sign of an exponent and its digits, after the letter. -/
def exponentDigits (cs : List Char) : Except Fault ((Bool × List Char) × Rest cs) :=
  match cs with
  | '+' :: rest => within (by simp) ((digits rest).map fun (found, left) => ((false, found), left))
  | '-' :: rest => within (by simp) ((digits rest).map fun (found, left) => ((true, found), left))
  | cs => (digits cs).map fun (found, left) => ((false, found), left)

/-- An exponent, if there is one. -/
def exponentPart (cs : List Char) : Except Fault (Option (Bool × List Char) × Tail cs) :=
  match cs with
  | c :: rest =>
    if c = 'e' ∨ c = 'E' then
      (exponentDigits rest).map fun (found, left) =>
        (some found, ⟨left.val, Nat.le_of_lt (Nat.lt_succ_of_lt left.property)⟩)
    else .ok (none, Tail.all (c :: rest))
  | [] => .ok (none, Tail.all [])

/-- A number without its sign. -/
def unsigned (negative : Bool) (cs : List Char) : Except Fault (Literal × Rest cs) :=
  match wholeDigits cs with
  | .error fault => .error fault
  | .ok (whole, rest) =>
    match fractionDigits rest.val with
    | .error fault => .error fault
    | .ok (fraction, left) =>
      match exponentPart left.val with
      | .error fault => .error fault
      | .ok (exponent, last) =>
        .ok (⟨negative, whole, fraction, exponent⟩, ⟨last.val, by
          have := rest.property
          have := left.property
          have := last.property
          omega⟩)

/-- A number as written, from its sign or first digit on. -/
def literal (cs : List Char) : Except Fault (Literal × Rest cs) :=
  match cs with
  | '-' :: rest => within (by simp) (unsigned true rest)
  | cs => unsigned false cs

/-- A number; one that is too large is as bad as one that is badly written. -/
def number : Reader Number := fun cs =>
  match literal cs with
  | .error fault => .error fault
  | .ok (literal, rest) =>
    match literal.value? with
    | some value => .ok (value, rest)
    | none => .error .malformed

end Read

end GatewayQuery.Json
