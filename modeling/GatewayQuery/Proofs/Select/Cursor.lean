/-
Parsing with a cursor.

The parser of this library takes tokens from the front of a list, so there is no place for it to be
lost.  Here the same language is read by a cursor that stands at one of the lexemes, looks at it by
its index, looks up to two lexemes ahead, and moves on.  Nothing in these definitions keeps the
cursor inside of the lexemes or says that a loop ends: a look at an index without a lexeme is an
outcome of its own, a move that would lead past the last lexeme leaves the cursor where it is, and
loops have an allowance of turns.  The cursor keeps a log of its moves and of the places where turns
began.

`Proofs/Select/Movement.lean` shows that it comes to the same as the parser, and what the log holds
then.
-/
import GatewayQuery.Proofs.Select.Refusals

namespace GatewayQuery.Select

/-- The token that a lexeme is. -/
def Lexeme.kind? : Lexeme → Option Token.Kind
  | .token kind => some kind
  | _ => none

/-- The name that a lexeme gives. -/
def Lexeme.name? (lexeme : Lexeme) : Option String := lexeme.kind?.bind Token.Kind.name?

/-- Where the cursor stands, and what it has done so far. -/
structure Cursor where
  position : Nat
  /-- From where to where it moved, each time that it was told to. -/
  moves : List (Nat × Nat)
  /-- Where a turn of a loop began, or a list of nodes below another. -/
  turns : List Nat

namespace Cursor

def start : Cursor := ⟨0, [], []⟩

/-- Why reading ends before the nodes are there. -/
inductive Halt where
  | refused (refusal : Refusal)
  /-- No lexeme stands under the cursor. -/
  | astray
  /-- No turn is left. -/
  | exhausted

/-- What is done with a cursor.  Where it is when reading halts is known as well. -/
abbrev Run := EStateM Halt Cursor

variable (all : List (Lexeme × Text.Span))

/-! ### Looking and moving -/

/-- The lexeme under the cursor. -/
def current : Run (Lexeme × Text.Span) := do
  match all[(← get).position]? with
  | some here => return here
  | none => throw .astray

/-- A lexeme further on, if there is one. -/
def ahead (distance : Nat) : Run (Option Lexeme) := do
  return all[(← get).position + distance]?.map Prod.fst

/-- Moves on by one, but not past the last lexeme. -/
def advance : Run Unit :=
  modify fun cursor =>
    let next := if cursor.position + 1 < all.length then cursor.position + 1 else cursor.position
    { cursor with position := next, moves := cursor.moves ++ [(cursor.position, next)] }

/-- Begins a turn with the lexeme under the cursor. -/
def turn : Run Unit := do
  modify fun cursor => { cursor with turns := cursor.turns ++ [cursor.position] }
  advance all

def sees (kind : Token.Kind) : Run Bool := do
  return (← current all).1 = .token kind

def refuse {α : Type} (expected : Expectation) : Run α := do
  let here ← current all
  throw (.refused ⟨.unexpected expected here.1, here.2⟩)

def symbol (kind : Token.Kind) (expected : Expectation) : Run Unit := do
  if ← sees all kind then advance all else refuse all expected

def name (expected : Expectation) : Run String := do
  match (← current all).1.name? with
  | some text =>
    advance all
    return text
  | none => refuse all expected

/-! ### Parts without nodes -/

def castPart : Run (Option String) := do
  if ← sees all .doubleColon then
    advance all
    return some (← name all .castType)
  else return none

def seesArrow : Run Bool := do
  return (← sees all .arrow) || (← sees all .doubleArrow)

/-- The steps of a JSON path, while there is an arrow and the last one had one head. -/
def pathLoop : Nat → JsonPath → Run JsonPath
  | 0, _ => throw .exhausted
  | allowance + 1, path => do
    if !path.text && (← seesArrow all) then
      let text ← sees all .doubleArrow
      turn all
      let key ← name all .jsonKey
      pathLoop allowance ⟨path.keys ++ [key], text⟩
    else return path

def pathPart (allowance : Nat) : Run (Option JsonPath) := do
  if ← seesArrow all then return some (← pathLoop all allowance ⟨[], false⟩) else return none

def aggregateName : Run AggregateFunction := do
  let here ← current all
  let text ← name all .aggregate
  match AggregateFunction.ofName? text with
  | none => throw (.refused ⟨.unknownAggregate text, here.2⟩)
  | some function => return function

def aggregatePart : Run (Option Aggregate) := do
  if ← sees all .dot then
    advance all
    let function ← aggregateName all
    symbol all .leftParen .aggregateParens
    symbol all .rightParen .closingParen
    return some ⟨function, ← castPart all, false⟩
  else return none

def columnPart (allowance : Nat) (key : Option String) (column : String) : Run Field := do
  let path ← pathPart all allowance
  let cast ← castPart all
  let aggregate ← aggregatePart all
  return ⟨column, key, none, cast, aggregate, path, false, false⟩

def hintWord (hints : Parser.Hints) : Run Parser.Hints := do
  let here ← current all
  let word ← name all .hintWord
  match here.1.kind?.bind fun kind => hints.add kind word with
  | none => throw (.refused ⟨.unexpectedHint word, here.2⟩)
  | some hints => return hints

/-- The words after exclamation marks, while there is one. -/
def hintLoop : Nat → Parser.Hints → Run Parser.Hints
  | 0, _ => throw .exhausted
  | allowance + 1, hints => do
    if ← sees all .bang then
      turn all
      let hints ← hintWord all hints
      hintLoop allowance hints
    else return hints

/-- An embedding has to follow hints. -/
def hintPart (allowance : Nat) : Run Parser.Hints := do
  let hints ← hintLoop all allowance .none
  if hints.marked && !(← sees all .leftParen) then refuse all .embedding else return hints

def keyPart : Run (Option String) := do
  let here ← current all
  let second ← ahead all 1
  if here.1.name?.isSome && second == some (.token .colon) then
    -- the lexeme is a name, so what else would have fitted is never told
    let key ← name all .fieldName
    advance all
    return some key
  else return none

def seesRowCount : Run Bool := do
  let here ← current all
  let second ← ahead all 1
  let third ← ahead all 2
  return here.1 = .token (.bare "count") && second == some (.token .leftParen) &&
    third == some (.token .rightParen)

/-! ### Nodes -/

/-- The parenthesis before the nodes of an embedding. -/
def opening : Run Unit := do
  if ← sees all .leftParen then turn all else refuse all .embedding

/-- The nodes of an embedding in their parentheses; `nested` reads a list of them. -/
def childList (nested : Run (List Node)) : Run (List Node) := do
  opening all
  if ← sees all .rightParen then
    advance all
    return []
  else
    let children ← nested
    symbol all .rightParen .closingParen
    return children

def rowCount (key : Option String) : Run (Field × List Node) := do
  advance all
  advance all
  advance all
  return (.rowCount key (← castPart all), [])

/-- An embedding or a column. -/
def named (nested : Run (List Node)) (allowance : Nat) (key : Option String) :
    Run (Field × List Node) := do
  let text ← name all .fieldName
  let hints ← hintPart all allowance
  if hints.marked || (← sees all .leftParen) then
    return (.embedding text key hints.hint hints.innerJoin, ← childList all nested)
  else return (← columnPart all allowance key text, [])

def item (nested : Run (List Node)) (allowance : Nat) : Run (Field × List Node) := do
  let key ← keyPart all
  if ← seesRowCount all then rowCount all key else named all nested allowance key

def node (nested : Run (List Node)) (allowance : Nat) : Run Node := do
  let here ← current all
  match here.1 with
  | .token .star =>
    advance all
    return .star
  | .token .ellipsis =>
    advance all
    let found ← item all nested allowance
    if found.1.embedded then return .spread found.1 found.2
    else throw (.refused ⟨.bareSpread, here.2⟩)
  | _ =>
    let found ← item all nested allowance
    return .field found.1 found.2

/-- Nodes, while there is a comma behind them. -/
def nodeList : Nat → Run (List Node)
  | 0 => throw .exhausted
  | allowance + 1 => do
    let first ← node all (nodeList allowance) allowance
    if ← sees all .comma then
      turn all
      return first :: (← nodeList allowance)
    else return [first]

/-- The nodes of a whole expression. -/
def expression (allowance : Nat) : Run (List Node) := do
  let here ← current all
  if here.1 = .finish then throw (.refused ⟨.empty, here.2⟩)
  else
    let nodes ← nodeList all allowance
    let last ← current all
    match last.1 with
    | .finish => return nodes
    | .fault why => throw (.refused ⟨.lexical why, last.2⟩)
    | .token _ => throw (.refused ⟨.trailing, last.2⟩)

end Cursor

end GatewayQuery.Select
