/-
From characters to tokens.  Blanks separate tokens and are dropped; at every other place the
longest token is taken.  The spelling of each lexeme is kept beside it, so that the spellings and
the dropped blanks together are the input.
-/
import GatewayQuery.Select.Token
import GatewayQuery.Text.Blank

namespace GatewayQuery.Select

/-- What stands at one place of a text. -/
inductive Lexeme where
  | token (kind : Token.Kind)
  | fault (fault : Token.Fault)
  | finish
  deriving DecidableEq, Repr

namespace Lexeme

/-- How a message names a lexeme. -/
def describe : Lexeme → String
  | .token kind => kind.describe
  | .fault why => why.message
  | .finish => "end of input"

/-- What was found at a character, with the characters that spell it and those that follow. -/
structure Reading where
  found : Except Token.Fault Token.Kind
  spelling : List Char
  rest : List Char

/-- A name in quotes, after the first quote.  It runs to the next quote: there is no escape. -/
def readQuoted (rest : List Char) : Reading :=
  let text := rest.takeWhile (· != '"')
  match rest.dropWhile (· != '"') with
  | [] => ⟨.error .unterminated, '"' :: text, []⟩
  | quote :: rest => ⟨.ok (.quoted (String.ofList text)), '"' :: text ++ [quote], rest⟩

/-- A bare name, from its first character on. -/
def readBare (c : Char) (rest : List Char) : Reading :=
  let text := c :: rest.takeWhile isNameChar
  ⟨.ok (.bare (String.ofList text)), text, rest.dropWhile isNameChar⟩

/-- The longest token that begins with a character which is not blank; `..` is two dots. -/
def read (c : Char) (rest : List Char) : Reading :=
  match c, rest with
  | '*', rest => ⟨.ok .star, ['*'], rest⟩
  | ',', rest => ⟨.ok .comma, [','], rest⟩
  | '!', rest => ⟨.ok .bang, ['!'], rest⟩
  | '(', rest => ⟨.ok .leftParen, ['('], rest⟩
  | ')', rest => ⟨.ok .rightParen, [')'], rest⟩
  | ':', ':' :: rest => ⟨.ok .doubleColon, [':', ':'], rest⟩
  | ':', rest => ⟨.ok .colon, [':'], rest⟩
  | '.', '.' :: '.' :: rest => ⟨.ok .ellipsis, ['.', '.', '.'], rest⟩
  | '.', rest => ⟨.ok .dot, ['.'], rest⟩
  | '-', '>' :: '>' :: rest => ⟨.ok .doubleArrow, ['-', '>', '>'], rest⟩
  | '-', '>' :: rest => ⟨.ok .arrow, ['-', '>'], rest⟩
  | '-', rest => ⟨.error (.unexpected '-'), ['-'], rest⟩
  | '"', rest => readQuoted rest
  | c, rest => if isNameChar c then readBare c rest else ⟨.error (.unexpected c), [c], rest⟩

theorem length_rest_readQuoted_le (rest : List Char) :
    (readQuoted rest).rest.length ≤ rest.length := by
  have shorter := Text.length_dropWhile_le (· != '"') rest
  unfold readQuoted
  split
  · simp
  · rename_i quote left h
    rw [h] at shorter
    exact Nat.le_of_succ_le shorter

theorem length_rest_read_le (c : Char) (rest : List Char) :
    (read c rest).rest.length ≤ rest.length := by
  unfold read
  split <;> try simp <;> try omega
  · exact length_rest_readQuoted_le _
  · split
    · exact Text.length_dropWhile_le isNameChar _
    · exact Nat.le_refl _

/-- The lexeme at the front of a text that begins at a byte offset, with its place and what
follows it. -/
def next (offset : Nat) (cs : List Char) : Lexeme × Text.Span × List Char :=
  let start := offset + Text.byteLength (cs.takeWhile Text.isBlank)
  match Text.dropBlank cs with
  | [] => (.finish, Text.Span.point start, [])
  | c :: rest =>
    let reading := read c rest
    let lexeme :=
      match reading.found with
      | .ok kind => .token kind
      | .error why => .fault why
    (lexeme, ⟨start, start + Text.byteLength reading.spelling⟩, reading.rest)

end Lexeme

/-- The tokens of a text up to the place where they stop. -/
structure Tokens where
  tokens : List Token
  stop : Stop
  deriving DecidableEq, Repr

namespace Tokens

/-- The tokens of a text that begins at a byte offset. -/
def scan (offset : Nat) (cs : List Char) : Tokens :=
  let start := offset + Text.byteLength (cs.takeWhile Text.isBlank)
  match h : Text.dropBlank cs with
  | [] => ⟨[], ⟨none, Text.Span.point start⟩⟩
  | c :: rest =>
    have : rest.length < cs.length := Text.length_lt_of_dropBlank h
    let reading := Lexeme.read c rest
    let stop := start + Text.byteLength reading.spelling
    match reading.found with
    | .ok kind =>
      let more := scan stop reading.rest
      ⟨⟨kind, ⟨start, stop⟩⟩ :: more.tokens, more.stop⟩
    | .error why => ⟨[], ⟨some why, ⟨start, stop⟩⟩⟩
termination_by cs.length
decreasing_by
  exact Nat.lt_of_le_of_lt (Lexeme.length_rest_read_le c rest) this

/-- The tokens of a select expression. -/
def ofString (input : String) : Tokens := scan 0 input.toList

end Tokens

/-- Reading on: the first `count` lexemes of a text, past every fault and past the end. -/
def lexemes (offset : Nat) (cs : List Char) : (count : Nat) → List (Lexeme × Text.Span)
  | 0 => []
  | count + 1 =>
    let (lexeme, span, rest) := Lexeme.next offset cs
    (lexeme, span) :: lexemes span.stop rest count

end GatewayQuery.Select
