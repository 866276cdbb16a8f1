/-
Passing over a value that nobody asked for.  It has to be well-formed, but its numbers may be of
any size, its escapes need not denote characters, and it may be nested to any depth: the brackets
still open are kept in a list.
-/
import GatewayQuery.Json.Scan

namespace GatewayQuery.Json.Read

/-- A bracket that is still open. -/
inductive Frame where
  | list
  | members
  deriving DecidableEq, Repr

/-- The bracket that closes the frame. -/
def Frame.close : Frame → Char
  | .list => ']'
  | .members => '\x7d'

/-- The frame that a bracket opens. -/
def Frame.opened? : Char → Option Frame
  | '[' => some .list
  | '\x7b' => some .members
  | _ => none

/-- Passes the rest of a string. -/
def skipString (cs : List Char) : Except Fault (Rest cs) :=
  match cs with
  | [] => .error .truncated
  | '"' :: rest => .ok (Rest.tail '"' rest)
  | ['\\'] => .error .truncated
  | '\\' :: 'u' :: rest =>
    match fourHex rest with
    | .error fault => .error fault
    | .ok (_, left) =>
      (skipString left.val).map (Rest.after (Rest.after (Rest.second '\\' 'u' rest) left))
  | '\\' :: c :: rest =>
    if (shortEscape? c).isSome then
      (skipString rest).map (Rest.after (Rest.second '\\' c rest))
    else .error .malformed
  | c :: rest =>
    if c.toNat < 0x20 then .error .malformed
    else (skipString rest).map (Rest.after (Rest.tail c rest))
termination_by cs.length
decreasing_by
  · exact (Rest.after (Rest.second '\\' 'u' rest) left).property
  · exact (Rest.second '\\' c rest).property
  · exact (Rest.tail c rest).property

/-- Passes a number.  One that is cut short is as bad as one that is badly written. -/
def skipNumber (cs : List Char) : Except Fault (Rest cs) :=
  match literal cs with
  | .error _ => .error .malformed
  | .ok (_, rest) => .ok rest

/-- Passes a value without parts, given its first character and what follows. -/
def skipScalar (c : Char) (rest : List Char) : Except Fault (Tail rest) :=
  match c with
  | 'n' => word ['u', 'l', 'l'] rest
  | 't' => word ['r', 'u', 'e'] rest
  | 'f' => word ['a', 'l', 's', 'e'] rest
  | '"' => (skipString rest).map Rest.toTail
  | c =>
    if c = '-' ∨ c.isDigit then
      (skipNumber (c :: rest)).map Rest.behind
    else .error .malformed

/-- Passes what stands before a value in the frame: a key and its colon, or nothing. -/
def skipKey (frame : Frame) (cs : List Char) : Except Fault (Tail cs) :=
  match frame with
  | .list => .ok (Tail.all cs)
  | .members =>
    match h : dropSpace cs with
    | [] => .error .truncated
    | '"' :: rest =>
      match skipString rest with
      | .error fault => .error fault
      | .ok left =>
        match k : dropSpace left.val with
        | [] => .error .truncated
        | ':' :: last =>
          .ok ⟨last, by
            have := length_lt_of_dropSpace h
            have := length_lt_of_dropSpace k
            have := left.property
            omega⟩
        | _ => .error .malformed
    | _ => .error .malformed

mutual

/-- Passes a value, and after it everything up to the end of the open frames. -/
def skipValue (frames : List Frame) (cs : List Char) : Except Fault (Rest cs) :=
  match h : dropSpace cs with
  | [] => .error .truncated
  | c :: rest =>
    have shorter : rest.length < cs.length := length_lt_of_dropSpace h
    match Frame.opened? c with
    | none =>
      match skipScalar c rest with
      | .error fault => .error fault
      | .ok left =>
        (skipAfter frames left.val).map fun last => ⟨last.val, by
          have := left.property
          have := last.property
          omega⟩
    | some frame =>
      match k : dropSpace rest with
      | [] => .error .truncated
      | d :: inner =>
        have : inner.length < rest.length := length_lt_of_dropSpace k
        if d = frame.close then
          (skipAfter frames inner).map fun last => ⟨last.val, by
            have := last.property
            omega⟩
        else
          match skipKey frame rest with
          | .error fault => .error fault
          | .ok left =>
            (skipValue (frame :: frames) left.val).map fun last => ⟨last.val, by
              have := left.property
              have := last.property
              omega⟩
termination_by cs.length
decreasing_by
  · have := left.property
    omega
  · omega
  · have := left.property
    omega

/-- Passes what follows a value up to the end of the open frames. -/
def skipAfter (frames : List Frame) (cs : List Char) : Except Fault (Tail cs) :=
  match frames with
  | [] => .ok (Tail.all cs)
  | frame :: outer =>
    match h : dropSpace cs with
    | [] => .error .truncated
    | c :: rest =>
      have shorter : rest.length < cs.length := length_lt_of_dropSpace h
      if c = frame.close then
        (skipAfter outer rest).map fun last => ⟨last.val, by
          have := last.property
          omega⟩
      else if c = ',' then
        match skipKey frame rest with
        | .error fault => .error fault
        | .ok left =>
          (skipValue (frame :: outer) left.val).map fun last => ⟨last.val, by
            have := left.property
            have := last.property
            omega⟩
      else .error .malformed
termination_by cs.length
decreasing_by
  · omega
  · have := left.property
    omega

end

/-- Passes one value. -/
def skip (cs : List Char) : Except Fault (Rest cs) := skipValue [] cs

end GatewayQuery.Json.Read
