/-
From tokens to the tree.  Each step takes tokens from the front and returns what it made of them
with the tokens that are left; that fewer are left is part of its type, so nothing else is needed
to see that parsing ends.  Parsing stops at the first token that does not fit.
-/
import GatewayQuery.Select.Lexer
import GatewayQuery.Select.Node

namespace GatewayQuery.Select

/-- What would have fitted where parsing stopped. -/
inductive Expectation where
  | fieldName
  | hintWord
  | embedding
  | closingParen
  | jsonKey
  | aggregate
  | aggregateParens
  | castType
  deriving DecidableEq, Repr

def Expectation.describe : Expectation → String
  | .fieldName => "field name"
  | .hintWord => "hint after `!`"
  | .embedding => "embedded resource `(` after hint"
  | .closingParen => "`)`"
  | .jsonKey => "JSON key after `->`"
  | .aggregate => "aggregate function after `.`"
  | .aggregateParens => "`()` after aggregate function"
  | .castType => "type name after `::`"

/-- Why an expression is refused. -/
inductive Refusal.Cause where
  /-- There is no token at all. -/
  | empty
  /-- Tokens are left after a complete expression. -/
  | trailing
  /-- No token begins there. -/
  | lexical (fault : Token.Fault)
  /-- The expression ends where more was expected. -/
  | ended (expected : Expectation)
  /-- Another token was expected. -/
  | mismatch (expected : Expectation) (found : Token.Kind)
  /-- A second hint, or a hint after the kind of join. -/
  | unexpectedHint (word : String)
  | unknownAggregate (name : String)
  /-- A spread of something that is not an embedding. -/
  | bareSpread
  deriving DecidableEq, Repr

def Refusal.Cause.message : Refusal.Cause → String
  | .empty => "Empty select expression"
  | .trailing => "Unexpected input"
  | .lexical fault => fault.message
  | .ended expected => "Unexpected end of input: expected " ++ expected.describe
  | .mismatch expected found => "Expected " ++ expected.describe ++ ", found " ++ found.describe
  | .unexpectedHint word => "Unexpected hint `!" ++ word ++ "`"
  | .unknownAggregate name =>
    "Unknown aggregate function `" ++ name ++ "`: expected one of count, sum, avg, min, max"
  | .bareSpread => "A spread operation must be done on an embedded resource"

/-- Why tokens are refused and at which of them. -/
structure Refusal where
  cause : Refusal.Cause
  span : Text.Span
  deriving DecidableEq, Repr

/-- Why a text is refused, where, and the part of it that was not used. -/
structure ParseError extends Refusal where
  remainder : String
  deriving DecidableEq, Repr

namespace ParseError

/-- The error at a token of the input: all from that token on is unused. -/
def of (input : String) (refusal : Refusal) : ParseError :=
  { refusal with remainder := refusal.span.remainder input }

def message (error : ParseError) : String := error.cause.message

/-- The message with the place where the input was refused. -/
def describe (error : ParseError) : String := error.message ++ " at `" ++ error.remainder ++ "`"

end ParseError

namespace Parser

/-- The tokens left after some were taken. -/
abbrev Rest (ts : List Token) := { rest : List Token // rest.length < ts.length }

/-- The tokens left after some or none were taken. -/
abbrev Tail (ts : List Token) := { rest : List Token // rest.length ≤ ts.length }

abbrev Step (ts : List Token) (α : Type) := Except Refusal (α × Rest ts)

/-- The rest of some later tokens is a rest of the earlier ones. -/
def within {α : Type} {small large : List Token} (h : small.length ≤ large.length) :
    Step small α → Step large α
  | .error error => .error error
  | .ok (value, rest) => .ok (value, ⟨rest.val, Nat.lt_of_lt_of_le rest.property h⟩)

/-- A tail of later tokens that leaves fewer than the earlier ones. -/
def shorten {α : Type} {small large : List Token} (h : small.length < large.length) :
    Except Refusal (α × Tail small) → Step large α
  | .error error => .error error
  | .ok (value, rest) => .ok (value, ⟨rest.val, Nat.lt_of_le_of_lt rest.property h⟩)

/-- The error at the front of the tokens, or where they stop. -/
def refuse (stop : Stop) (expected : Expectation) : List Token → Refusal
  | token :: _ => ⟨.mismatch expected token.kind, token.span⟩
  | [] =>
    match stop.fault with
    | some fault => ⟨.lexical fault, stop.span⟩
    | none => ⟨.ended expected, stop.span⟩

/-- A name, bare or quoted. -/
def name (stop : Stop) (expected : Expectation) (ts : List Token) : Step ts String :=
  match ts with
  | [] => .error (refuse stop expected [])
  | token :: rest =>
    match token.kind.name? with
    | some text => .ok (text, ⟨rest, Nat.lt_succ_self _⟩)
    | none => .error (refuse stop expected (token :: rest))

/-- One symbol. -/
def symbol (stop : Stop) (kind : Token.Kind) (expected : Expectation) (ts : List Token) :
    Step ts Unit :=
  match ts with
  | [] => .error (refuse stop expected [])
  | token :: rest =>
    if token.kind = kind then .ok ((), ⟨rest, Nat.lt_succ_self _⟩)
    else .error (refuse stop expected (token :: rest))

/-- `:: type`, if it is there. -/
def castPart (stop : Stop) (ts : List Token) :
    Except Refusal (Option String × Tail ts) :=
  match ts with
  | ⟨.doubleColon, _⟩ :: rest =>
    match name stop .castType rest with
    | .error error => .error error
    | .ok (text, left) =>
      .ok (some text, ⟨left.val, Nat.le_of_lt (Nat.lt_succ_of_lt left.property)⟩)
  | ts => .ok (none, ⟨ts, Nat.le_refl _⟩)

/-- `-> key -> key ->> key`: the arrow with two heads ends the path. -/
def pathPart (stop : Stop) (ts : List Token) :
    Except Refusal (JsonPath × Tail ts) :=
  match ts with
  | ⟨.arrow, _⟩ :: rest =>
    match name stop .jsonKey rest with
    | .error error => .error error
    | .ok (key, left) =>
      match pathPart stop left.val with
      | .error error => .error error
      | .ok (path, last) =>
        .ok (⟨key :: path.keys, path.text⟩, ⟨last.val, by
          have := left.property
          have := last.property
          simp only [List.length_cons]
          omega⟩)
  | ⟨.doubleArrow, _⟩ :: rest =>
    match name stop .jsonKey rest with
    | .error error => .error error
    | .ok (key, left) =>
      .ok (⟨[key], true⟩, ⟨left.val, Nat.le_of_lt (Nat.lt_succ_of_lt left.property)⟩)
  | ts => .ok (⟨[], false⟩, ⟨ts, Nat.le_refl _⟩)
termination_by ts.length
decreasing_by
  have := left.property
  simp only [List.length_cons]
  omega

/-- The name of an aggregate function. -/
def aggregateName (stop : Stop) (ts : List Token) : Step ts AggregateFunction :=
  match ts with
  | [] => .error (refuse stop .aggregate [])
  | token :: rest =>
    match token.kind.name? with
    | none => .error (refuse stop .aggregate (token :: rest))
    | some text =>
      match AggregateFunction.ofName? text with
      | none => .error ⟨.unknownAggregate text, token.span⟩
      | some function => .ok (function, ⟨rest, Nat.lt_succ_self _⟩)

/-- `.function()` with the cast of its result, if it is there. -/
def aggregatePart (stop : Stop) (ts : List Token) :
    Except Refusal (Option Aggregate × Tail ts) :=
  match ts with
  | ⟨.dot, _⟩ :: rest =>
    match aggregateName stop rest with
    | .error error => .error error
    | .ok (function, afterName) =>
      match symbol stop .leftParen .aggregateParens afterName.val with
      | .error error => .error error
      | .ok (_, opened) =>
        match symbol stop .rightParen .closingParen opened.val with
        | .error error => .error error
        | .ok (_, closed) =>
          match castPart stop closed.val with
          | .error error => .error error
          | .ok (cast, left) =>
            .ok (some ⟨function, cast, false⟩, ⟨left.val, by
              have := afterName.property
              have := opened.property
              have := closed.property
              have := left.property
              simp only [List.length_cons]
              omega⟩)
  | ts => .ok (none, ⟨ts, Nat.le_refl _⟩)

/-- What the words after exclamation marks have said so far. -/
structure Hints where
  hint : Option String
  innerJoin : Bool
  /-- Whether a kind of join has been named: no hint may follow it. -/
  joined : Bool
  /-- Whether there was an exclamation mark: an embedding has to follow. -/
  marked : Bool
  deriving DecidableEq, Repr

def Hints.none : Hints := ⟨Option.none, false, false, false⟩

/-- Takes one more word; `inner` and `left` written bare name the kind of join. -/
def Hints.add (hints : Hints) (kind : Token.Kind) (word : String) : Option Hints :=
  if kind.isWord "inner" then
    some { hints with innerJoin := true, joined := true, marked := true }
  else if kind.isWord "left" then some { hints with joined := true, marked := true }
  else if hints.hint.isNone && !hints.joined then
    some { hints with hint := some word, marked := true }
  else Option.none

/-- `! word ! word`. -/
def hintPart (stop : Stop) (hints : Hints) (ts : List Token) :
    Except Refusal (Hints × Tail ts) :=
  match ts with
  | [⟨.bang, _⟩] => .error (refuse stop .hintWord [])
  | ⟨.bang, _⟩ :: token :: rest =>
    match token.kind.name? with
    | none => .error (refuse stop .hintWord (token :: rest))
    | some word =>
      match hints.add token.kind word with
      | none => .error ⟨.unexpectedHint word, token.span⟩
      | some hints =>
        match hintPart stop hints rest with
        | .error error => .error error
        | .ok (hints, left) =>
          .ok (hints, ⟨left.val, by
            have := left.property
            simp only [List.length_cons]
            omega⟩)
  | ts => .ok (hints, ⟨ts, Nat.le_refl _⟩)

/-- `key :`, if it is there. -/
def keyPart (ts : List Token) : Option String × Tail ts :=
  match ts with
  | token :: ⟨.colon, _⟩ :: rest =>
    match token.kind.name? with
    | some text => (some text, ⟨rest, by simp only [List.length_cons]; omega⟩)
    | none => (none, ⟨token :: ⟨.colon, _⟩ :: rest, Nat.le_refl _⟩)
  | ts => (none, ⟨ts, Nat.le_refl _⟩)

/-- `count()`, the count of the rows: the word has to be bare and the parentheses empty. -/
def countPart (ts : List Token) : Option (Rest ts) :=
  match ts with
  | ⟨.bare "count", _⟩ :: ⟨.leftParen, _⟩ :: ⟨.rightParen, _⟩ :: rest =>
    some ⟨rest, by simp only [List.length_cons]; omega⟩
  | _ => none

/-- What may follow the name of a column: a JSON path, a cast and an aggregate. -/
def columnPart (stop : Stop) (key : Option String) (column : String) (ts : List Token) :
    Except Refusal (Field × Tail ts) :=
  match pathPart stop ts with
  | .error error => .error error
  | .ok (path, afterPath) =>
    match castPart stop afterPath.val with
    | .error error => .error error
    | .ok (cast, afterCast) =>
      match aggregatePart stop afterCast.val with
      | .error error => .error error
      | .ok (aggregate, left) =>
        let jsonPath := if path.keys.isEmpty then none else some path
        .ok (⟨column, key, none, cast, aggregate, jsonPath, false, false⟩, ⟨left.val, by
          have := afterPath.property
          have := afterCast.property
          have := left.property
          omega⟩)

mutual

/-- `node , node , node`. -/
def nodeList (stop : Stop) (ts : List Token) : Step ts (List Node) :=
  match node stop ts with
  | .error error => .error error
  | .ok (first, rest) =>
    match h : rest.val with
    | ⟨.comma, _⟩ :: more =>
      have shorter : more.length < ts.length := by
        have := rest.property
        rw [h, List.length_cons] at this
        omega
      match nodeList stop more with
      | .error error => .error error
      | .ok (others, left) =>
        .ok (first :: others, ⟨left.val, Nat.lt_trans left.property shorter⟩)
    | _ => .ok ([first], rest)
termination_by (ts.length, 2)

/-- A star, a spread or a field. -/
def node (stop : Stop) (ts : List Token) : Step ts Node :=
  match ts with
  | ⟨.star, _⟩ :: rest => .ok (.star, ⟨rest, Nat.lt_succ_self _⟩)
  | ⟨.ellipsis, span⟩ :: rest =>
    match item stop rest with
    | .error error => .error error
    | .ok ((target, children), left) =>
      if target.embedded then
        .ok (.spread target children, ⟨left.val, Nat.lt_succ_of_lt left.property⟩)
      else .error ⟨.bareSpread, span⟩
  | ts =>
    match item stop ts with
    | .error error => .error error
    | .ok ((field, children), left) => .ok (.field field children, left)
termination_by (ts.length, 1)

/-- A field with the nodes below it. -/
def item (stop : Stop) (ts : List Token) : Step ts (Field × List Node) :=
  let (key, start) := keyPart ts
  match countPart start.val with
  | some rest =>
    shorten (Nat.lt_of_lt_of_le rest.property start.property)
      ((castPart stop rest.val).map fun (cast, left) => ((Field.rowCount key cast, []), left))
  | none =>
    match name stop .fieldName start.val with
    | .error error => .error error
    | .ok (text, afterName) =>
      match hintPart stop .none afterName.val with
      | .error error => .error error
      | .ok (hints, afterHints) =>
        match h : afterHints.val with
        | ⟨.leftParen, _⟩ :: inner =>
          have shorter : inner.length < ts.length := by
            have := start.property
            have := afterName.property
            have := afterHints.property
            rw [h, List.length_cons] at this
            omega
          match childList stop inner with
          | .error error => .error error
          | .ok (children, left) =>
            .ok ((Field.embedding text key hints.hint hints.innerJoin, children),
              ⟨left.val, Nat.lt_trans left.property shorter⟩)
        | _ =>
          if hints.marked then .error (refuse stop .embedding afterHints.val)
          else
            shorten (by
              have := start.property
              have := afterName.property
              have := afterHints.property
              omega)
              ((columnPart stop key text afterHints.val).map fun (field, left) =>
                ((field, []), left))
termination_by (ts.length, 0)

/-- The nodes of an embedding after its opening parenthesis, through the closing one. -/
def childList (stop : Stop) (ts : List Token) : Step ts (List Node) :=
  match ts with
  | ⟨.rightParen, _⟩ :: rest => .ok ([], ⟨rest, Nat.lt_succ_self _⟩)
  | ts =>
    match nodeList stop ts with
    | .error error => .error error
    | .ok (children, rest) =>
      match symbol stop .rightParen .closingParen rest.val with
      | .error error => .error error
      | .ok (_, left) => .ok (children, ⟨left.val, Nat.lt_trans left.property rest.property⟩)
termination_by (ts.length, 3)

end

/-- The nodes of a whole expression, given its tokens. -/
def expression (tokens : Tokens) : Except Refusal (List Node) :=
  match tokens.tokens, tokens.stop.fault with
  | [], none => .error ⟨.empty, tokens.stop.span⟩
  | ts, _ =>
    match nodeList tokens.stop ts with
    | .error error => .error error
    | .ok (nodes, rest) =>
      match rest.val, tokens.stop.fault with
      | token :: _, _ => .error ⟨.trailing, token.span⟩
      | [], some fault => .error ⟨.lexical fault, tokens.stop.span⟩
      | [], none => .ok nodes

end Parser

/-- The nodes of a select expression. -/
def parse (input : String) : Except ParseError (List Node) :=
  (Parser.expression (Tokens.ofString input)).mapError (ParseError.of input)

end GatewayQuery.Select
