/-
Characters written as bytes are read back.

Decoding accepts any bytes at all and may look at a byte anew, so it is no inverse in
general.  It is one on what encoding writes, and there it works in pieces: the bytes of
a character are read as that character whatever bytes come after them.  The second
byte of a longer form has narrower bounds than the others; that the bytes of a
character keep to them is where its code being no surrogate comes in.
-/
import GatewayQuery.Text.Utf8

namespace GatewayQuery.Text

/-! ### One character -/

/-- A byte that continues a character gives its six bits. -/
theorem continued_cons {bits low high n : Nat} {ranges : List (Nat × Nat)} {rest : List UInt8}
    (hlow : low ≤ n % 64 + 128) (hhigh : n % 64 + 128 ≤ high) :
    continued bits ((low, high) :: ranges) (UInt8.ofNat (n % 64 + 128) :: rest) =
      continued (bits * 64 + n % 64) ranges rest := by
  have hbyte : (UInt8.ofNat (n % 64 + 128)).toNat = n % 64 + 128 := by
    rw [UInt8.toNat_ofNat']
    omega
  have hbits : (n % 64 + 128) % 64 = n % 64 := by omega
  rw [continued, hbyte, if_pos ⟨hlow, hhigh⟩, hbits]

theorem decodeChar_of_form {lead : UInt8} {bits code : Nat} {ranges : List (Nat × Nat)}
    {rest left : List UInt8} (hform : form? lead.toNat = some (bits, ranges))
    (hcontinued : continued bits ranges rest = (some code, left)) :
    decodeChar lead rest = (Char.ofNat code, left) := by
  unfold decodeChar
  rw [hform]
  simp only [hcontinued]
  rfl

theorem toNat_ofNat_of_lt {n : Nat} (h : n < 256) : (UInt8.ofNat n).toNat = n := by
  rw [UInt8.toNat_ofNat']
  omega

/-- The code of a character is no surrogate and not too large. -/
theorem char_code_bounds (c : Char) :
    c.toNat < 0x110000 ∧ (c.toNat < 0xD800 ∨ 0xDFFF < c.toNat) := by
  have h : c.toNat < 0xD800 ∨ 0xDFFF < c.toNat ∧ c.toNat < 0x110000 := c.valid
  omega

theorem form_two {n : Nat} (hlow : 0x80 ≤ n) (hhigh : n ≤ 0x7FF) :
    form? (n / 64 % 32 + 192) = some (n / 64, [(0x80, 0xBF)]) := by
  have hbits : (n / 64 % 32 + 192) % 32 = n / 64 := by omega
  unfold form?
  rw [if_neg (by omega), if_neg (by omega), if_pos (by omega), hbits]

theorem form_three {n : Nat} (hhigh : n ≤ 0xFFFF) :
    form? (n / 4096 % 16 + 224) = some (n / 4096,
      [(if n / 4096 % 16 + 224 = 0xE0 then 0xA0 else 0x80,
        if n / 4096 % 16 + 224 = 0xED then 0x9F else 0xBF), (0x80, 0xBF)]) := by
  have hbits : (n / 4096 % 16 + 224) % 16 = n / 4096 := by omega
  unfold form?
  rw [if_neg (by omega), if_neg (by omega), if_neg (by omega), if_pos (by omega), hbits]

theorem form_four {n : Nat} (hhigh : n < 0x110000) :
    form? (n / 262144 % 8 + 240) = some (n / 262144,
      [(if n / 262144 % 8 + 240 = 0xF0 then 0x90 else 0x80,
        if n / 262144 % 8 + 240 = 0xF4 then 0x8F else 0xBF), (0x80, 0xBF), (0x80, 0xBF)]) := by
  have hbits : (n / 262144 % 8 + 240) % 8 = n / 262144 := by omega
  unfold form?
  rw [if_neg (by omega), if_neg (by omega), if_neg (by omega), if_neg (by omega),
    if_pos (by omega), hbits]

theorem continued_last {bits n : Nat} {rest : List UInt8} :
    continued bits [(0x80, 0xBF)] (UInt8.ofNat (n % 64 + 128) :: rest) =
      (some (bits * 64 + n % 64), rest) := by
  rw [continued_cons (by omega) (by omega), continued]

/-- The bytes of a character are read as the character, whatever follows. -/
theorem decodeChar_encoded (c : Char) (tail : List UInt8) :
    ∃ lead rest, String.utf8EncodeChar c = lead :: rest ∧
      decodeChar lead (rest ++ tail) = (c, tail) := by
  obtain ⟨hmax, hsurrogate⟩ := char_code_bounds c
  have hchar : Char.ofNat c.toNat = c := Char.ofNat_toNat c
  have hcode : c.val.toNat = c.toNat := rfl
  generalize c.toNat = n at hmax hsurrogate hchar hcode
  subst hchar
  unfold String.utf8EncodeChar
  simp only [hcode]
  by_cases hone : n ≤ 0x7F
  · rw [if_pos hone]
    have hform : form? (UInt8.ofNat n).toNat = some (n, []) := by
      rw [toNat_ofNat_of_lt (by omega), form?, if_pos (by omega)]
    exact ⟨_, _, rfl, decodeChar_of_form hform rfl⟩
  rw [if_neg hone]
  by_cases htwo : n ≤ 0x7FF
  · rw [if_pos htwo]
    have hlead : (UInt8.ofNat (n / 64 % 32 + 192)).toNat = n / 64 % 32 + 192 :=
      toNat_ofNat_of_lt (by omega)
    have hsum : n / 64 * 64 + n % 64 = n := by omega
    refine ⟨_, _, rfl, decodeChar_of_form (hlead ▸ form_two (by omega) htwo) ?_⟩
    rw [List.cons_append, continued_last, hsum]
    rfl
  rw [if_neg htwo]
  by_cases hthree : n ≤ 0xFFFF
  · rw [if_pos hthree]
    have hlead : (UInt8.ofNat (n / 4096 % 16 + 224)).toNat = n / 4096 % 16 + 224 :=
      toNat_ofNat_of_lt (by omega)
    have hsum : (n / 4096 * 64 + n / 64 % 64) * 64 + n % 64 = n := by omega
    refine ⟨_, _, rfl, decodeChar_of_form (hlead ▸ form_three hthree) ?_⟩
    rw [List.cons_append, continued_cons (by split <;> omega) (by split <;> omega),
      List.cons_append, continued_last, hsum]
    rfl
  · rw [if_neg hthree]
    have hlead : (UInt8.ofNat (n / 262144 % 8 + 240)).toNat = n / 262144 % 8 + 240 :=
      toNat_ofNat_of_lt (by omega)
    have hsum : ((n / 262144 * 64 + n / 4096 % 64) * 64 + n / 64 % 64) * 64 + n % 64 = n := by
      omega
    refine ⟨_, _, rfl, decodeChar_of_form (hlead ▸ form_four hmax) ?_⟩
    rw [List.cons_append, continued_cons (by split <;> omega) (by split <;> omega),
      List.cons_append, continued_cons (by omega) (by omega), List.cons_append, continued_last,
      hsum]
    rfl

/-! ### Characters of one byte -/

theorem isAlphanum_bounds {c : Char} (h : c.isAlphanum = true) :
    48 ≤ c.toNat ∧ c.toNat ≤ 122 := by
  have hranges : ((decide (65 ≤ c.val ∧ c.val ≤ 90) ||
      decide (97 ≤ c.val) && decide (c.val ≤ 122)) ||
      decide (48 ≤ c.val) && decide (c.val ≤ 57)) = true := h
  have hcode : c.val.toNat = c.toNat := rfl
  simp only [Bool.or_eq_true, Bool.and_eq_true, decide_eq_true_eq, UInt32.le_iff_toNat_le,
    UInt32.reduceToNat, hcode] at hranges
  omega

theorem utf8_of_lt {c : Char} (h : c.toNat < 128) : utf8 [c] = [UInt8.ofNat c.toNat] := by
  have hcode : c.val.toNat = c.toNat := rfl
  unfold utf8
  rw [List.flatMap_cons, List.flatMap_nil, List.append_nil, String.utf8EncodeChar]
  simp only [hcode]
  rw [if_pos (by omega)]

/-! ### Whole texts -/

theorem decodeUtf8_append (cs : List Char) (tail : List UInt8) :
    decodeUtf8 (utf8 cs ++ tail) = cs ++ decodeUtf8 tail := by
  induction cs with
  | nil => rfl
  | cons c cs ih =>
    obtain ⟨lead, rest, hbytes, hdecode⟩ := decodeChar_encoded c (utf8 cs ++ tail)
    have hsplit : utf8 (c :: cs) ++ tail = lead :: (rest ++ (utf8 cs ++ tail)) := by
      simp [utf8, hbytes]
    rw [hsplit, decodeUtf8, hdecode, ih]
    rfl

theorem decodeUtf8_utf8 (cs : List Char) : decodeUtf8 (utf8 cs) = cs := by
  have h := decodeUtf8_append cs []
  rwa [List.append_nil, decodeUtf8, List.append_nil] at h

end GatewayQuery.Text
