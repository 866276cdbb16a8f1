/-
Readers for values of a known form.  A record may be written as an object, in which unknown keys
are passed over, or as the list of its fields in declared order.

The fault of a value of another form is found by reading that value: a number, a string or a word
has to be well-formed before it can be of the wrong type, while a bracket is enough to tell.
-/
import GatewayQuery.Json.Skip

namespace GatewayQuery.Json.Read

/-- Turns the outcome of reading an unwanted value into the fault to report. -/
def unwanted {α : Type} : Except Fault α → Fault
  | .error fault => fault
  | .ok _ => .mistyped

/-- The fault of a value that is not of the wanted form, given its text. -/
def refusal (cs : List Char) : Fault :=
  match cs with
  | [] => .truncated
  | 'n' :: rest => unwanted (word ['u', 'l', 'l'] rest)
  | 't' :: rest => unwanted (word ['r', 'u', 'e'] rest)
  | 'f' :: rest => unwanted (word ['a', 'l', 's', 'e'] rest)
  | '"' :: rest => unwanted (stringTail rest)
  | '[' :: _ => .mistyped
  | '\x7b' :: _ => .mistyped
  | c :: rest => if c = '-' ∨ c.isDigit then unwanted (number (c :: rest)) else .malformed

/-- A string. -/
def string : Reader String := fun cs =>
  match h : dropSpace cs with
  | '"' :: rest =>
    match stringTail rest with
    | .error fault => .error fault
    | .ok (text, left) =>
      .ok (String.ofList text, ⟨left.val, Nat.lt_trans left.property (length_lt_of_dropSpace h)⟩)
  | other => .error (refusal other)

/-- A truth value. -/
def bool : Reader Bool := fun cs =>
  match h : dropSpace cs with
  | 't' :: rest =>
    (word ['r', 'u', 'e'] rest).map fun left =>
      (true, ⟨left.val, Nat.lt_of_le_of_lt left.property (length_lt_of_dropSpace h)⟩)
  | 'f' :: rest =>
    (word ['a', 'l', 's', 'e'] rest).map fun left =>
      (false, ⟨left.val, Nat.lt_of_le_of_lt left.property (length_lt_of_dropSpace h)⟩)
  | other => .error (refusal other)

/-- Nothing, written `null`. -/
def null : Reader Unit := fun cs =>
  match h : dropSpace cs with
  | 'n' :: rest =>
    (word ['u', 'l', 'l'] rest).map fun left =>
      ((), ⟨left.val, Nat.lt_of_le_of_lt left.property (length_lt_of_dropSpace h)⟩)
  | other => .error (refusal other)

/-- What stands next in a bracket. -/
inductive Turn (cs : List Char) where
  /-- The closing bracket. -/
  | closed (rest : Rest cs)
  /-- An item, after the comma that separates it. -/
  | item (rest : Tail cs)

/-- Looks for the next item: every item but the first is preceded by a comma, and the closing
bracket does not follow a comma. -/
def turn (close : Char) (first : Bool) (cs : List Char) : Except Fault (Turn cs) :=
  match h : dropSpace cs with
  | [] => .error .truncated
  | c :: rest =>
    have shorter : rest.length < cs.length := length_lt_of_dropSpace h
    if c = close then .ok (.closed ⟨rest, shorter⟩)
    else if first then .ok (.item (Tail.all cs))
    else if c = ',' then
      match dropSpace rest with
      | [] => .error .truncated
      | d :: _ => if d = close then .error .malformed else .ok (.item ⟨rest, Nat.le_of_lt shorter⟩)
    else .error .malformed

/-- The items of a list, through its closing bracket. -/
def items {α : Type} (item : Reader α) (first : Bool) (cs : List Char) :
    Except Fault (List α × Rest cs) :=
  match turn ']' first cs with
  | .error fault => .error fault
  | .ok (.closed rest) => .ok ([], rest)
  | .ok (.item rest) =>
    match item rest.val with
    | .error fault => .error fault
    | .ok (value, left) =>
      match items item false left.val with
      | .error fault => .error fault
      | .ok (values, last) =>
        .ok (value :: values, ⟨last.val, by
          have := rest.property
          have := left.property
          have := last.property
          omega⟩)
termination_by cs.length
decreasing_by
  have := rest.property
  have := left.property
  omega

/-- A list of values of one form. -/
def list {α : Type} (item : Reader α) : Reader (List α) := fun cs =>
  match h : dropSpace cs with
  | '[' :: rest => within (Nat.le_of_lt (length_lt_of_dropSpace h)) (items item true rest)
  | other => .error (refusal other)

/-- One field of a record of which a part has been read: its key, whether it has been read, and
how to read it. -/
structure Slot (σ : Type) where
  key : String
  isFilled : σ → Bool
  fill : σ → Reader σ

/-- The colon after a key. -/
def colon (cs : List Char) : Except Fault (Rest cs) :=
  match h : dropSpace cs with
  | [] => .error .truncated
  | ':' :: rest => .ok ⟨rest, length_lt_of_dropSpace h⟩
  | _ => .error .malformed

/-- A key, in quotes. -/
def key (cs : List Char) : Except Fault (String × Rest cs) :=
  match h : dropSpace cs with
  | [] => .error .truncated
  | '"' :: rest =>
    match stringTail rest with
    | .error fault => .error fault
    | .ok (text, left) =>
      .ok (String.ofList text, ⟨left.val, Nat.lt_trans left.property (length_lt_of_dropSpace h)⟩)
  | _ => .error .malformed

/-- The value of a member whose key has been read: a field that was read before is refused at
once, an unknown key is passed over. -/
def memberValue {σ : Type} (slots : List (Slot σ)) (name : String) (part : σ) :
    Reader σ := fun cs =>
  match slots.find? (fun slot => slot.key == name) with
  | none =>
    match colon cs with
    | .error fault => .error fault
    | .ok rest =>
      (skip rest.val).map fun left => (part, Rest.after rest left)
  | some slot =>
    if slot.isFilled part then .error .mistyped
    else
      match colon cs with
      | .error fault => .error fault
      | .ok rest => within (Rest.le rest) (slot.fill part rest.val)

/-- The members of an object, through its closing bracket. -/
def members {σ : Type} (slots : List (Slot σ)) (first : Bool) (part : σ) (cs : List Char) :
    Except Fault (σ × Rest cs) :=
  match turn '\x7d' first cs with
  | .error fault => .error fault
  | .ok (.closed rest) => .ok (part, rest)
  | .ok (.item rest) =>
    match key rest.val with
    | .error fault => .error fault
    | .ok (name, left) =>
      match memberValue slots name part left.val with
      | .error fault => .error fault
      | .ok (part, last) =>
        within (by
          have := rest.property
          have := left.property
          have := last.property
          omega) (members slots false part last.val)
termination_by cs.length
decreasing_by
  have := rest.property
  have := left.property
  have := last.property
  omega

/-- The end of a list all of whose fields have been read. -/
def listEnd (cs : List Char) : Except Fault (Rest cs) :=
  match h : dropSpace cs with
  | [] => .error .truncated
  | ']' :: rest => .ok ⟨rest, length_lt_of_dropSpace h⟩
  | _ => .error .malformed

/-- The fields of a record written as a list, through its closing bracket; the last ones may be
missing. -/
def positions {σ : Type} (first : Bool) (part : σ) :
    List (Slot σ) → (cs : List Char) → Except Fault (σ × Rest cs)
  | [], cs => (listEnd cs).map fun rest => (part, rest)
  | slot :: slots, cs =>
    match turn ']' first cs with
    | .error fault => .error fault
    | .ok (.closed rest) => .ok (part, rest)
    | .ok (.item rest) =>
      match slot.fill part rest.val with
      | .error fault => .error fault
      | .ok (part, left) =>
        within (by
          have := rest.property
          have := left.property
          omega) (positions false part slots left.val)

/-- A record with the given fields, read into an empty part; `finish` refuses a part that lacks a
required field. -/
def record {σ α : Type} (slots : List (Slot σ)) (empty : σ) (finish : σ → Option α) :
    Reader α := fun cs =>
  let close (outcome : Except Fault (σ × Rest cs)) : Except Fault (α × Rest cs) :=
    match outcome with
    | .error fault => .error fault
    | .ok (part, rest) =>
      match finish part with
      | some value => .ok (value, rest)
      | none => .error .mistyped
  match h : dropSpace cs with
  | '[' :: rest =>
    close (within (Nat.le_of_lt (length_lt_of_dropSpace h)) (positions true empty slots rest))
  | '\x7b' :: rest =>
    close (within (Nat.le_of_lt (length_lt_of_dropSpace h)) (members slots true empty rest))
  | other => .error (refusal other)

/-- One of several names: a string, or an object whose only key is the name, with the value
`null`.  As in any object the key has to be a string. -/
def choice {α : Type} (named? : String → Option α) : Reader α := fun cs =>
  match h : dropSpace cs with
  | [] => .error .truncated
  | '"' :: rest =>
    match stringTail rest with
    | .error fault => .error fault
    | .ok (text, left) =>
      match named? (String.ofList text) with
      | none => .error .mistyped
      | some value =>
        .ok (value, ⟨left.val, Nat.lt_trans left.property (length_lt_of_dropSpace h)⟩)
  | '\x7b' :: rest =>
    match g : dropSpace rest with
    | [] => .error .truncated
    | '"' :: key =>
      match stringTail key with
      | .error fault => .error fault
      | .ok (text, left) =>
        match named? (String.ofList text) with
        | none => .error .mistyped
        | some value =>
          match colon left.val with
          | .error fault => .error fault
          | .ok first =>
            match null first.val with
            | .error fault => .error fault
            | .ok (_, second) =>
              match k : dropSpace second.val with
              | [] => .error .truncated
              | '\x7d' :: last =>
                .ok (value, ⟨last, by
                  have := length_lt_of_dropSpace h
                  have := length_lt_of_dropSpace g
                  have := length_lt_of_dropSpace k
                  have := left.property
                  have := first.property
                  have := second.property
                  omega⟩)
              | _ => .error .malformed
    | _ => .error .malformed
  | _ => .error .malformed

/-- A text that holds one value and nothing else but space. -/
def whole {α : Type} (reader : Reader α) (text : String) : Except Fault α :=
  match reader text.toList with
  | .error fault => .error fault
  | .ok (value, rest) => if dropSpace rest.val = [] then .ok value else .error .malformed

end GatewayQuery.Json.Read
