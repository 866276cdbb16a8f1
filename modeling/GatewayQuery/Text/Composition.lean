/-
Canonical composition.  A letter with an accent can be written as one character or as a letter and a
mark, and marks that stand in different places can be written in any order.  Composition chooses one
spelling: characters are taken apart, marks are put in the order of their classes, and what can be
one character becomes one.
-/
import GatewayQuery.Text.CombiningClass
import GatewayQuery.Text.Composite

namespace GatewayQuery.Text

/-! ### Taking apart -/

/-- The two or three letters of a Hangul syllable. -/
def hangulLetters? (c : Char) : Option (List Char) :=
  let n := c.toNat
  if 0xAC00 ≤ n ∧ n ≤ 0xD7A3 then
    let place := n - 0xAC00
    let final := place % 28
    some ([Char.ofNat (0x1100 + place / 588), Char.ofNat (0x1161 + place % 588 / 28)] ++
      if final = 0 then [] else [Char.ofNat (0x11A7 + final)])
  else none

/-- The parts of a character, whose first part is itself taken apart as often as is said. -/
def partsWithin : Nat → Char → List Char
  | 0, c => [c]
  | depth + 1, c =>
    match composites.text? c with
    | some [first, second] => partsWithin depth first ++ [second]
    | _ => [c]

/-- The parts of a character that have no parts themselves.  No letter carries more than three
marks, and no composite comes before U+00C0. -/
def parts (c : Char) : List Char :=
  if c.toNat < 0xC0 then [c]
  else (hangulLetters? c).getD (partsWithin 3 c)

/-! ### Order -/

/-- Puts a character in front of a text, behind the marks of smaller classes. -/
def insertMark (c : Char) : List Char → List Char
  | [] => [c]
  | d :: rest =>
    if 0 < combiningClass d ∧ combiningClass d < combiningClass c then d :: insertMark c rest
    else c :: d :: rest

/-- The text with each run of marks in the order of their classes; marks of one class keep theirs.
-/
def orderMarks (text : List Char) : List Char := text.foldr insertMark []

/-! ### Putting together -/

/-- The Hangul syllable of two letters, or of a syllable of two letters and a third. -/
def hangulSyllable? (first second : Char) : Option Char :=
  let a := first.toNat
  let b := second.toNat
  if 0x1100 ≤ a ∧ a < 0x1113 ∧ 0x1161 ≤ b ∧ b < 0x1176 then
    some (Char.ofNat (0xAC00 + (a - 0x1100) * 588 + (b - 0x1161) * 28))
  else if 0xAC00 ≤ a ∧ a ≤ 0xD7A3 ∧ (a - 0xAC00) % 28 = 0 ∧ 0x11A8 ≤ b ∧ b < 0x11C3 then
    some (Char.ofNat (a + (b - 0x11A7)))
  else none

/-- The one character for two.  Nothing below the combining diacritical marks joins what stands
before it. -/
def join? (first second : Char) : Option Char :=
  if second.toNat < 0x300 then none
  else (hangulSyllable? first second).or (composites.character? [first, second])

/-- Joins what follows a character to it.  The marks that it passed without joining them, the last
one in front, keep a mark of a class that is not above theirs from it; a character of class zero
that does not join begins anew. -/
def joinTo (first : Char) (passed : List Char) : List Char → List Char
  | [] => first :: passed.reverse
  | c :: rest =>
    let blocked :=
      match passed with
      | [] => false
      | mark :: _ => combiningClass c ≤ combiningClass mark
    match if blocked then none else join? first c with
    | some joined => joinTo joined passed rest
    | none =>
      if combiningClass c = 0 then first :: passed.reverse ++ joinTo c [] rest
      else joinTo first (c :: passed) rest

/-- The text in its composed spelling. -/
def compose (text : List Char) : List Char :=
  match orderMarks (text.flatMap parts) with
  | [] => []
  | first :: rest => joinTo first [] rest

end GatewayQuery.Text
