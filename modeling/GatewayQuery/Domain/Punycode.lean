/-
Punycode: text as ASCII letters, digits and hyphens.  The ASCII characters come first, and a hyphen
after them.  Then, in the order of their numbers, each other character is inserted: a number says
how many steps to go, where a step goes past a place of the text, or to the next character number at
the end.  The number is written in digits of the base 36, the least first, and a digit below a
threshold is its last; the thresholds follow the size of the numbers before.
-/

namespace GatewayQuery.Domain.Punycode

/-! ### Numbers -/

/-- The digit that stands for a value below 36. -/
def digit (value : Nat) : Char :=
  if value < 26 then Char.ofNat (0x61 + value) else Char.ofNat (0x30 + (value - 26))

/-- The value of a digit. -/
def value? (c : Char) : Option Nat :=
  if 'a' ≤ c ∧ c ≤ 'z' then some (c.toNat - 0x61)
  else if 'A' ≤ c ∧ c ≤ 'Z' then some (c.toNat - 0x41)
  else if c.isDigit then some (c.toNat - 0x30 + 26)
  else none

/-- What a digit has to reach for another to follow it. -/
def threshold (bias place : Nat) : Nat := min 26 (max 1 (place - bias))

theorem one_le_threshold (bias place : Nat) : 1 ≤ threshold bias place := by
  unfold threshold; omega

/-- The bias for numbers of a size, and the places that were passed to bring it down. -/
def settleBias (size places : Nat) : Nat :=
  if 455 < size then settleBias (size / 35) (places + 36) else places + 36 * size / (size + 38)
termination_by size
decreasing_by omega

/-- The bias after a number.  The first number tells least of those to come; a longer text makes
the steps between two insertions more. -/
def nextBias (number length : Nat) (first : Bool) : Nat :=
  let size := number / (if first then 700 else 2)
  settleBias (size + size / length) 0

/-- A number in digits, from a place on. -/
def writeNumber (bias place number : Nat) : List Char :=
  let least := threshold bias place
  if number < least then [digit number]
  else
    digit (least + (number - least) % (36 - least)) ::
      writeNumber bias (place + 36) ((number - least) / (36 - least))
termination_by number
decreasing_by
  have := one_le_threshold bias place
  exact Nat.lt_of_le_of_lt (Nat.div_le_self _ _) (by omega)

/-- Numbers stay below this. -/
def numberLimit : Nat := Nat.pow 2 32

/-- Reads digits on top of a number, the next of them of some weight, and returns what follows
the last. -/
def readNumber (bias place weight number : Nat) : List Char → Option (Nat × List Char)
  | [] => none
  | c :: rest =>
    match value? c with
    | none => none
    | some value =>
      let least := threshold bias place
      let sum := number + value * weight
      if numberLimit ≤ sum then none
      else if value < least then some (sum, rest)
      else if numberLimit ≤ weight * (36 - least) then none
      else readNumber bias (place + 36) (weight * (36 - least)) sum rest

theorem length_readNumber_lt {bias place weight number : Nat} {code rest : List Char} {sum : Nat}
    (h : readNumber bias place weight number code = some (sum, rest)) :
    rest.length < code.length := by
  induction code generalizing place weight number with
  | nil => simp [readNumber] at h
  | cons c code ih =>
    simp only [readNumber] at h
    split at h
    · contradiction
    · split at h
      · contradiction
      · split at h
        · simp only [Option.some.injEq, Prod.mk.injEq] at h
          simp [h.2]
        · split at h
          · contradiction
          · exact Nat.lt_succ_of_lt (ih h)

/-- The bias before the first number. -/
def firstBias : Nat := 72

/-- The number of the first character beyond ASCII. -/
def firstCode : Nat := 0x80

/-! ### Writing -/

/-- A text half written: the steps since the last insertion, the bias, how many characters are
there, and the digits so far. -/
structure Progress where
  steps : Nat
  bias : Nat
  length : Nat
  code : List Char

/-- Goes past one place of the text while the character of a number is inserted. -/
def Progress.pass (basic number : Nat) (done : Progress) (c : Char) : Progress :=
  if c.toNat < number then { done with steps := done.steps + 1 }
  else if c.toNat = number then
    { steps := 0
      bias := nextBias done.steps (done.length + 1) (done.length == basic)
      length := done.length + 1
      code := done.code ++ writeNumber done.bias 36 done.steps }
  else done

/-- Inserts the characters of some numbers, which ascend. -/
def writeCodes (text : List Char) (basic : Nat) : (next : Nat) → List Nat → Progress → List Char
  | _, [], done => done.code
  | next, number :: numbers, done =>
    let reached := { done with steps := done.steps + (number - next) * (done.length + 1) }
    let passed := text.foldl (Progress.pass basic number) reached
    writeCodes text basic (number + 1) numbers { passed with steps := passed.steps + 1 }

/-- The Punycode of a text. -/
def encode (text : List Char) : List Char :=
  let basic := text.filter (·.toNat < firstCode)
  let numbers := ((text.map Char.toNat).filter (firstCode ≤ ·)).mergeSort.eraseDups
  (if basic.isEmpty then [] else basic ++ ['-']) ++
    writeCodes text basic.length firstCode numbers ⟨0, firstBias, basic.length, []⟩

/-! ### Reading -/

/-- Inserts the characters that the rest of a code tells of; the next insertion is at `place` or
after it. -/
def insertCodes (bias number place : Nat) (text code : List Char) : Option (List Char) :=
  match code with
  | [] => some text
  | c :: rest =>
    match _h : readNumber bias 36 1 place (c :: rest) with
    | none => none
    | some (sum, left) =>
      let length := text.length + 1
      let number := number + sum / length
      if Nat.isValidChar number then
        insertCodes (nextBias (sum - place) length (place == 0)) number (sum % length + 1)
          (text.insertIdx (sum % length) (Char.ofNat number)) left
      else none
termination_by code.length
decreasing_by exact length_readNumber_lt _h

/-- The text of a Punycode.  The ASCII characters end at the last hyphen, unless it is the first
character of all. -/
def decode? (code : List Char) : Option (List Char) :=
  let tail := (code.reverse.takeWhile (· != '-')).reverse
  let basic := code.take (code.length - tail.length - 1)
  if basic.isEmpty then insertCodes firstBias firstCode 0 [] code
  else insertCodes firstBias firstCode 0 basic tail

end GatewayQuery.Domain.Punycode
