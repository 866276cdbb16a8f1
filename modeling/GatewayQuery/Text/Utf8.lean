/-
Characters as bytes.  Encoding is UTF-8; decoding accepts any bytes and puts the replacement
character for every stretch that begins like a character but is none.
-/

namespace GatewayQuery.Text

/-- The bytes of some characters. -/
def utf8 (cs : List Char) : List UInt8 := cs.flatMap String.utf8EncodeChar

@[simp] theorem utf8_nil : utf8 [] = [] := rfl

@[simp] theorem utf8_append (xs ys : List Char) : utf8 (xs ++ ys) = utf8 xs ++ utf8 ys := by
  simp [utf8]

/-- Stands for bytes that are no character. -/
def replacement : Char := '\uFFFD'

/-- The form of a character by its first byte: the bits that this byte holds, and the range in which
each byte after it lies.  The second byte of a longer form is bounded so that no character has two
forms and no surrogate has any. -/
def form? (lead : Nat) : Option (Nat × List (Nat × Nat)) :=
  let plain := (0x80, 0xBF)
  if lead < 0x80 then some (lead, [])
  else if lead < 0xC2 then none
  else if lead < 0xE0 then some (lead % 32, [plain])
  else if lead < 0xF0 then
    some (lead % 16,
      [(if lead = 0xE0 then 0xA0 else 0x80, if lead = 0xED then 0x9F else 0xBF), plain])
  else if lead < 0xF5 then
    some (lead % 8,
      [(if lead = 0xF0 then 0x90 else 0x80, if lead = 0xF4 then 0x8F else 0xBF), plain, plain])
  else none

/-- Takes bytes that continue a character, six bits from each, up to the first that does not lie in
its range. -/
def continued (bits : Nat) : List (Nat × Nat) → List UInt8 → Option Nat × List UInt8
  | [], rest => (some bits, rest)
  | _ :: _, [] => (none, [])
  | (low, high) :: ranges, byte :: rest =>
    if low ≤ byte.toNat ∧ byte.toNat ≤ high then
      continued (bits * 64 + byte.toNat % 64) ranges rest
    else (none, byte :: rest)

theorem length_continued_le (bits : Nat) (ranges : List (Nat × Nat)) (bytes : List UInt8) :
    (continued bits ranges bytes).2.length ≤ bytes.length := by
  induction ranges generalizing bits bytes with
  | nil => simp [continued]
  | cons range ranges ih =>
    cases bytes with
    | nil => simp [continued]
    | cons byte rest =>
      simp only [continued]
      split
      · exact Nat.le_succ_of_le (ih _ _)
      · simp

/-- The character that begins with a byte, and the bytes after it.  A byte that does not continue
the character is looked at anew. -/
def decodeChar (lead : UInt8) (rest : List UInt8) : Char × List UInt8 :=
  match form? lead.toNat with
  | none => (replacement, rest)
  | some (bits, ranges) =>
    let (code, rest) := continued bits ranges rest
    ((code.map Char.ofNat).getD replacement, rest)

theorem length_decodeChar_le (lead : UInt8) (rest : List UInt8) :
    (decodeChar lead rest).2.length ≤ rest.length := by
  unfold decodeChar
  split
  · simp
  · exact length_continued_le _ _ _

/-- The characters of some bytes. -/
def decodeUtf8 : List UInt8 → List Char
  | [] => []
  | lead :: rest => (decodeChar lead rest).1 :: decodeUtf8 (decodeChar lead rest).2
termination_by bytes => bytes.length
decreasing_by exact Nat.lt_succ_of_le (length_decodeChar_le lead rest)

end GatewayQuery.Text
