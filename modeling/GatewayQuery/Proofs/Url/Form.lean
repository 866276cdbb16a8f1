/-
Pairs written into a query are read back.

A query is read by undoing, in the opposite order, what writing does: it is cut at the
separators, each piece at its first equals sign, and in each half a plus becomes a
space before percent encodings are undone.  Each of these steps meets only what
writing put there, because what is written for a text holds no separator, no equals
sign, and no plus or percent sign that stands for itself.
-/
import GatewayQuery.Text.Split
import GatewayQuery.Proofs.Text.Utf8
import GatewayQuery.Url.Basic

namespace GatewayQuery.Url

open Text (utf8)

/-! ### Percent encoding -/

theorem utf8_hexDigit : ∀ n < 16, utf8 [hexDigit n] = [UInt8.ofNat (hexDigit n).toNat] := by
  decide

theorem hexValue_hexDigit : ∀ n < 16, hexValue? (UInt8.ofNat (hexDigit n).toNat) = some n := by
  decide

theorem hexDigit_isAlphanum : ∀ n < 16, (hexDigit n).isAlphanum = true := by decide

theorem percentDecode_cons {byte : UInt8} {rest : List UInt8} (h : byte ≠ 0x25) :
    percentDecode (byte :: rest) = byte :: percentDecode rest := by
  cases rest with
  | nil => rfl
  | cons high rest =>
    cases rest with
    | nil => rfl
    | cons low rest => rw [percentDecode, if_neg h]

/-- A byte in percent encoding is decoded to the byte. -/
theorem percentDecode_percentByte (byte : UInt8) (tail : List UInt8) :
    percentDecode (utf8 (percentByte byte) ++ tail) = byte :: percentDecode tail := by
  have hbyte : byte.toNat < 256 := byte.toNat_lt
  have hhigh : byte.toNat / 16 < 16 := by omega
  have hlow : byte.toNat % 16 < 16 := by omega
  have hsum : byte.toNat / 16 * 16 + byte.toNat % 16 = byte.toNat := by omega
  have hbytes : utf8 (percentByte byte) = [0x25, UInt8.ofNat (hexDigit (byte.toNat / 16)).toNat,
      UInt8.ofNat (hexDigit (byte.toNat % 16)).toNat] := by
    have hsplit : percentByte byte =
        ['%'] ++ ([hexDigit (byte.toNat / 16)] ++ [hexDigit (byte.toNat % 16)]) := rfl
    rw [hsplit, Text.utf8_append, Text.utf8_append, utf8_hexDigit _ hhigh, utf8_hexDigit _ hlow]
    rfl
  rw [hbytes]
  simp only [List.cons_append, List.nil_append]
  rw [percentDecode, if_pos rfl, hexValue_hexDigit _ hhigh, hexValue_hexDigit _ hlow]
  simp only [hsum, UInt8.ofNat_toNat]

theorem percentDecode_percentBytes (bytes tail : List UInt8) :
    percentDecode (utf8 (bytes.flatMap percentByte) ++ tail) = bytes ++ percentDecode tail := by
  induction bytes with
  | nil => rfl
  | cons byte bytes ih =>
    rw [List.flatMap_cons, Text.utf8_append, List.append_assoc, percentDecode_percentByte, ih]
    rfl

/-- Where a percent sign is never kept, and nothing but ASCII is, decoding undoes encoding. -/
theorem percentDecode_percentEncode {keeps : Char → Bool} (hpercent : keeps '%' = false)
    (hplain : ∀ c, keeps c = true → c.toNat < 128) (text : List Char) (tail : List UInt8) :
    percentDecode (utf8 (percentEncode keeps text) ++ tail) = utf8 text ++ percentDecode tail := by
  induction text with
  | nil => rfl
  | cons c text ih =>
    have hsplit : utf8 (c :: text) = utf8 [c] ++ utf8 text := Text.utf8_append [c] text
    rw [percentEncode, List.flatMap_cons, Text.utf8_append, List.append_assoc, hsplit,
      List.append_assoc, ← ih, percentEncode]
    split
    · next hkeeps =>
      have hbyte : UInt8.ofNat c.toNat ≠ 0x25 := by
        intro hsame
        have hcode := congrArg UInt8.toNat hsame
        rw [Text.toNat_ofNat_of_lt (by have := hplain c hkeeps; omega)] at hcode
        obtain rfl : c = '%' := Char.toNat_inj.mp hcode
        rw [hpercent] at hkeeps
        cases hkeeps
      rw [Text.utf8_of_lt (hplain c hkeeps)]
      exact percentDecode_cons hbyte
    · exact percentDecode_percentBytes (utf8 [c]) _

/-! ### One key or value -/

namespace Form

/-- A plus is read as a space. -/
def unplus (c : Char) : Char := if c = '+' then ' ' else c

/-- What is written for a text. -/
def IsPlain (c : Char) : Prop := c.isAlphanum = true ∨ c ∈ ['*', '-', '.', '_', '%', '+']

theorem isPlain_of_keeps {c : Char} (h : keeps c = true) :
    IsPlain c ∧ c ≠ '+' := by
  simp only [keeps, Bool.or_eq_true, beq_iff_eq] at h
  rcases h with (((h | rfl) | rfl) | rfl) | rfl
  · refine ⟨.inl h, ?_⟩
    rintro rfl
    exact absurd h (by decide)
  all_goals exact ⟨.inr (by decide), by decide⟩

theorem IsPlain.lt {c : Char} (h : IsPlain c) : c.toNat < 128 := by
  rcases h with halphanum | hmark
  · obtain ⟨-, hhigh⟩ := Text.isAlphanum_bounds halphanum
    omega
  · simp only [List.mem_cons, List.not_mem_nil, or_false] at hmark
    rcases hmark with rfl | rfl | rfl | rfl | rfl | rfl <;> decide

theorem percentBytes_isPlain {bytes : List UInt8} {c : Char}
    (h : c ∈ bytes.flatMap percentByte) : IsPlain c ∧ c ≠ '+' := by
  obtain ⟨byte, -, hc⟩ := List.mem_flatMap.mp h
  have hbyte : byte.toNat < 256 := byte.toNat_lt
  have hdigit : ∀ n < 16, IsPlain (hexDigit n) ∧ hexDigit n ≠ '+' := by
    intro n hn
    have halpha := hexDigit_isAlphanum n hn
    refine ⟨.inl halpha, ?_⟩
    intro hplus
    rw [hplus] at halpha
    exact absurd halpha (by decide)
  simp only [percentByte, List.mem_cons, List.not_mem_nil, or_false] at hc
  rcases hc with rfl | rfl | rfl
  · exact ⟨.inr (by decide), by decide⟩
  · exact hdigit _ (by omega)
  · exact hdigit _ (by omega)

/-- What is written is plain, but for the characters that are kept. -/
theorem of_mem_percentEncode {keeps : Char → Bool} {text : List Char} {c : Char}
    (h : c ∈ percentEncode keeps text) (hc : ¬IsPlain c) : c ∈ text ∧ keeps c = true := by
  obtain ⟨d, hmem, hd⟩ := List.mem_flatMap.mp h
  split at hd
  · next hkeeps =>
    obtain rfl := List.mem_singleton.mp hd
    exact ⟨hmem, hkeeps⟩
  · exact absurd (percentBytes_isPlain hd).1 hc

theorem encode_isPlain {text : List Char} {c : Char} (h : c ∈ encode text) : IsPlain c := by
  obtain ⟨d, -, hc⟩ := List.mem_flatMap.mp h
  unfold encodeChar at hc
  split at hc
  · obtain rfl := List.mem_singleton.mp hc
    exact .inr (by decide)
  · rw [percentEncode, List.flatMap_cons, List.flatMap_nil, List.append_nil] at hc
    split at hc
    · rename_i hkeeps
      obtain rfl := List.mem_singleton.mp hc
      exact (isPlain_of_keeps hkeeps).1
    · exact (percentBytes_isPlain hc).1

theorem not_mem_encode {text : List Char} {c : Char} (h : ¬IsPlain c) : c ∉ encode text :=
  fun hmem => h (encode_isPlain hmem)

theorem not_isPlain_separator : ¬IsPlain '&' := by
  unfold IsPlain
  decide

theorem not_isPlain_equals : ¬IsPlain '=' := by
  unfold IsPlain
  decide

theorem not_isPlain_slash : ¬IsPlain '/' := by
  unfold IsPlain
  decide

theorem unplus_of_ne {cs : List Char} (h : ∀ c ∈ cs, c ≠ '+') : cs.map unplus = cs := by
  rw [List.map_congr_left (g := id), List.map_id]
  intro c hc
  exact if_neg (h c hc)

/-- What is written for a character is decoded to its bytes. -/
theorem percentDecode_encodeChar (c : Char) (tail : List UInt8) :
    percentDecode (utf8 ((encodeChar c).map unplus) ++ tail) =
      utf8 [c] ++ percentDecode tail := by
  unfold encodeChar
  split
  · rename_i hspace
    subst hspace
    exact percentDecode_cons (by decide)
  · have hplus : ∀ d ∈ percentEncode keeps [c], d ≠ '+' := by
      intro d hd
      rw [percentEncode, List.flatMap_cons, List.flatMap_nil, List.append_nil] at hd
      split at hd
      · next hkeeps =>
        rw [List.mem_singleton.mp hd]
        exact (isPlain_of_keeps hkeeps).2
      · exact (percentBytes_isPlain hd).2
    rw [unplus_of_ne hplus]
    exact percentDecode_percentEncode rfl (fun d hd => (isPlain_of_keeps hd).1.lt) [c] tail

theorem decode_encode (text : List Char) : decode (encode text) = String.ofList text := by
  have hbytes : ∀ tail, percentDecode (utf8 ((encode text).map unplus) ++ tail) =
      utf8 text ++ percentDecode tail := by
    intro tail
    induction text with
    | nil => rfl
    | cons c text ih =>
      rw [encode, List.flatMap_cons, List.map_append, Text.utf8_append, List.append_assoc,
        percentDecode_encodeChar]
      rw [encode] at ih
      rw [ih, ← List.append_assoc, ← Text.utf8_append]
      rfl
  have hall := hbytes []
  rw [List.append_nil, percentDecode, List.append_nil] at hall
  have hdecode : decode (encode text) =
      String.ofList (Text.decodeUtf8 (percentDecode (utf8 ((encode text).map unplus)))) := rfl
  rw [hdecode, hall, Text.decodeUtf8_utf8]

/-! ### Whole queries -/

theorem decodePair_encodePair (pair : String × String) : decodePair (encodePair pair) = pair := by
  have hkey : ∀ c ∈ encode pair.1.toList, (c != '=') = true := by
    intro c hc
    rw [bne_iff_ne]
    rintro rfl
    exact not_mem_encode not_isPlain_equals hc
  unfold decodePair encodePair
  rw [List.takeWhile_append_of_pos hkey, List.dropWhile_append_of_pos hkey,
    List.takeWhile_cons_of_neg (by decide), List.dropWhile_cons_of_neg (by decide),
    List.append_nil, List.drop_succ_cons, List.drop_zero, decode_encode, decode_encode,
    String.ofList_toList, String.ofList_toList]

theorem pairs_encodePair (pair : String × String) : pairs (encodePair pair) = [pair] := by
  have hwhole : '&' ∉ encodePair pair := by
    rw [encodePair, List.mem_append, List.mem_cons, not_or, not_or]
    exact ⟨not_mem_encode not_isPlain_separator, by decide,
      not_mem_encode not_isPlain_separator⟩
  have hempty : (encodePair pair).isEmpty = false := by simp [encodePair]
  rw [pairs, Text.split_of_not_mem hwhole, List.filter_cons_of_pos (by simp [hempty]),
    List.filter_nil, List.map_cons, List.map_nil, decodePair_encodePair]

theorem pairs_append_one (query : List Char) (pair : String × String) :
    pairs ((if query.isEmpty then query else query ++ ['&']) ++ encodePair pair) =
      pairs query ++ [pair] := by
  cases query with
  | nil => exact pairs_encodePair pair
  | cons c query =>
    have hsplit := Text.split_append '&' (c :: query) (encodePair pair)
    have hpair := pairs_encodePair pair
    rw [List.isEmpty_cons, if_neg (by decide), List.append_assoc]
    rw [pairs] at hpair ⊢
    rw [List.singleton_append, hsplit, List.filter_append, List.map_append, hpair]
    rfl

/-- **Pairs that are added to a query come after those that it holds, unchanged.** -/
theorem pairs_append (query : List Char) (added : List (String × String)) :
    pairs (append query added) = pairs query ++ added := by
  induction added generalizing query with
  | nil => simp [append]
  | cons pair added ih =>
    have hstep : append query (pair :: added) = append ((if query.isEmpty then query
        else query ++ ['&']) ++ encodePair pair) added := rfl
    rw [hstep, ih, pairs_append_one, List.append_assoc]
    rfl

end Form

theorem pairs_addPairs (url : Url) (added : List (String × String)) :
    (url.addPairs added).pairs = url.pairs ++ added := by
  unfold addPairs
  split
  · rename_i hempty
    rw [List.isEmpty_iff.mp hempty, List.append_nil]
  · simp only [pairs, Option.getD_some, String.toList_ofList]
    exact Form.pairs_append _ added

end GatewayQuery.Url
