/-
The words of the select language.  A token is a name, bare or in quotes, or one of eleven symbols;
the text of an expression ends either properly or at the first character that begins no token.
-/
import GatewayQuery.Text.Span

namespace GatewayQuery.Select

/-- The characters of a bare name: ASCII letters and digits, and the underscore. -/
def isNameChar (c : Char) : Bool := c.isAlphanum || c == '_'

/-- What a token is. -/
inductive Token.Kind where
  /-- A bare name. -/
  | bare (text : String)
  /-- A name in double quotes, without them. -/
  | quoted (text : String)
  | star
  | ellipsis
  | comma
  | colon
  | doubleColon
  | bang
  | leftParen
  | rightParen
  | dot
  | arrow
  | doubleArrow
  deriving DecidableEq, Repr

/-- A token and the place where it stands. -/
structure Token where
  kind : Token.Kind
  span : Text.Span
  deriving DecidableEq, Repr

namespace Token

/-- Why no token begins at a place. -/
inductive Fault where
  /-- A quote that is never closed. -/
  | unterminated
  /-- A character that begins no token. -/
  | unexpected (c : Char)
  deriving DecidableEq, Repr

def Fault.message : Fault → String
  | .unterminated => "Unterminated quoted identifier"
  | .unexpected c => "Unexpected character: " ++ String.singleton c

/-- The name a token gives, bare or quoted. -/
def Kind.name? : Kind → Option String
  | .bare text => some text
  | .quoted text => some text
  | _ => none

/-- Whether the token is the given word, written bare.  A quoted name is never a word. -/
def Kind.isWord (kind : Kind) (word : String) : Bool :=
  match kind with
  | .bare text => text == word
  | _ => false

/-- How a message names a token. -/
def Kind.describe : Kind → String
  | .bare text => "identifier `" ++ text ++ "`"
  | .quoted text => "identifier `\"" ++ text ++ "\"`"
  | .star => "`*`"
  | .ellipsis => "`...`"
  | .comma => "`,`"
  | .colon => "`:`"
  | .doubleColon => "`::`"
  | .bang => "`!`"
  | .leftParen => "`(`"
  | .rightParen => "`)`"
  | .dot => "`.`"
  | .arrow => "`->`"
  | .doubleArrow => "`->>`"

end Token

/-- Where the tokens of a text end, and the fault if it is not at the end of the text. -/
structure Stop where
  fault : Option Token.Fault
  span : Text.Span
  deriving DecidableEq, Repr

end GatewayQuery.Select
