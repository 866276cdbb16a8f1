/-
Reading any JSON value.  Members keep the order in which they are written, repeated keys included.
-/
import GatewayQuery.Json.Typed

namespace GatewayQuery.Json

namespace Read

/-- A value without parts, given its first character and what follows. -/
def scalar (c : Char) (rest : List Char) : Except Fault (Json × Tail rest) :=
  match c with
  | 'n' => (word ['u', 'l', 'l'] rest).map fun left => (.null, left)
  | 't' => (word ['r', 'u', 'e'] rest).map fun left => (.bool true, left)
  | 'f' => (word ['a', 'l', 's', 'e'] rest).map fun left => (.bool false, left)
  | '"' =>
    (stringTail rest).map fun (text, left) => (.string (String.ofList text), left.toTail)
  | c => (number (c :: rest)).map fun (value, left) => (.number value, left.behind)

mutual

/-- A value of any form. -/
def value (cs : List Char) : Except Fault (Json × Rest cs) :=
  match h : dropSpace cs with
  | [] => .error .truncated
  | c :: rest =>
    have shorter : rest.length < cs.length := length_lt_of_dropSpace h
    if c = '[' then
      match valueItems true rest with
      | .error fault => .error fault
      | .ok (items, left) => .ok (.array items, ⟨left.val, Nat.lt_trans left.property shorter⟩)
    else if c = '\x7b' then
      match valueMembers true rest with
      | .error fault => .error fault
      | .ok (members, left) =>
        .ok (.object members, ⟨left.val, Nat.lt_trans left.property shorter⟩)
    else
      (scalar c rest).map fun (value, left) =>
        (value, ⟨left.val, Nat.lt_of_le_of_lt left.property shorter⟩)
termination_by (cs.length, 0)
decreasing_by all_goals exact Prod.Lex.left _ _ shorter

/-- The items of an array, through its closing bracket. -/
def valueItems (first : Bool) (cs : List Char) : Except Fault (List Json × Rest cs) :=
  match turn ']' first cs with
  | .error fault => .error fault
  | .ok (.closed rest) => .ok ([], rest)
  | .ok (.item rest) =>
    match value rest.val with
    | .error fault => .error fault
    | .ok (item, left) =>
      match valueItems false left.val with
      | .error fault => .error fault
      | .ok (items, last) =>
        .ok (item :: items, ⟨last.val, by
          have := rest.property
          have := left.property
          have := last.property
          omega⟩)
termination_by (cs.length, 1)
decreasing_by
  · have := rest.property
    simp [Prod.lex_def]
    omega
  · have := rest.property
    have := left.property
    simp [Prod.lex_def]
    omega

/-- The members of an object, through its closing bracket. -/
def valueMembers (first : Bool) (cs : List Char) :
    Except Fault (List (String × Json) × Rest cs) :=
  match turn '\x7d' first cs with
  | .error fault => .error fault
  | .ok (.closed rest) => .ok ([], rest)
  | .ok (.item rest) =>
    match key rest.val with
    | .error fault => .error fault
    | .ok (name, afterKey) =>
      match colon afterKey.val with
      | .error fault => .error fault
      | .ok afterColon =>
        match value afterColon.val with
        | .error fault => .error fault
        | .ok (item, left) =>
          match valueMembers false left.val with
          | .error fault => .error fault
          | .ok (members, last) =>
            .ok ((name, item) :: members, ⟨last.val, by
              have := rest.property
              have := afterKey.property
              have := afterColon.property
              have := left.property
              have := last.property
              omega⟩)
termination_by (cs.length, 1)
decreasing_by
  · have := rest.property
    have := afterKey.property
    have := afterColon.property
    simp [Prod.lex_def]
    omega
  · have := rest.property
    have := afterKey.property
    have := afterColon.property
    have := left.property
    simp [Prod.lex_def]
    omega

end

end Read

/-- The value a text holds. -/
def parse (text : String) : Except Fault Json := Read.whole Read.value text

end GatewayQuery.Json
