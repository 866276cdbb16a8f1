/-
Places in a text.  A span is a half-open range of byte offsets into the UTF-8 form of the text,
which is how editors and gateways count.
-/

namespace GatewayQuery.Text

/-- The number of bytes of a list of characters in UTF-8. -/
def byteLength : List Char → Nat
  | [] => 0
  | c :: cs => c.utf8Size + byteLength cs

@[simp] theorem byteLength_nil : byteLength [] = 0 := rfl

@[simp] theorem byteLength_cons (c : Char) (cs : List Char) :
    byteLength (c :: cs) = c.utf8Size + byteLength cs := rfl

@[simp] theorem byteLength_append (xs ys : List Char) :
    byteLength (xs ++ ys) = byteLength xs + byteLength ys := by
  induction xs with
  | nil => simp
  | cons c cs ih => simp [ih, Nat.add_assoc]

/-- What is left of the characters after `offset` bytes, unless the offset lies past their end or
inside a character. -/
def dropBytes? : (offset : Nat) → List Char → Option (List Char)
  | 0, cs => some cs
  | _ + 1, [] => none
  | offset + 1, c :: cs =>
    if offset + 1 < c.utf8Size then none else dropBytes? (offset + 1 - c.utf8Size) cs
  termination_by _ cs => cs.length

/-- The characters in the first `count` bytes, under the same proviso. -/
def takeBytes? : (count : Nat) → List Char → Option (List Char)
  | 0, _ => some []
  | _ + 1, [] => none
  | count + 1, c :: cs =>
    if count + 1 < c.utf8Size then none
    else (takeBytes? (count + 1 - c.utf8Size) cs).map (c :: ·)
  termination_by _ cs => cs.length

/-- A range of byte offsets, the first included and the last not. -/
structure Span where
  start : Nat
  stop : Nat
  deriving DecidableEq, Repr, Inhabited

namespace Span

/-- The empty span at an offset. -/
def point (offset : Nat) : Span := ⟨offset, offset⟩

/-- The number of bytes covered. -/
def length (span : Span) : Nat := span.stop - span.start

/-- Whether no byte is covered. -/
def isEmpty (span : Span) : Bool := span.start == span.stop

/-- The text from the start of the span on; nothing when the start is no boundary of the text. -/
def remainder (span : Span) (text : String) : String :=
  String.ofList ((dropBytes? span.start text.toList).getD [])

/-- The text covered by the span; nothing when an end is no boundary of the text or the span runs
backwards. -/
def slice (span : Span) (text : String) : String :=
  if span.stop < span.start then ""
  else
    String.ofList
      (((dropBytes? span.start text.toList).bind (takeBytes? (span.stop - span.start))).getD [])

end Span

end GatewayQuery.Text
