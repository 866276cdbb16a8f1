/-
Tokens and the characters that spell them.

What was read as tokens is spelled by them, up to the blanks that were dropped.  The
other direction needs more: spelled one right behind the other, two names become one
and three dots become a symbol of their own.  So kinds are read back from their
spellings if no two side by side fuse, and the grammar never puts such two together.
-/
import GatewayQuery.Proofs.Select.Grammar
import GatewayQuery.Proofs.Text.Utf8
import GatewayQuery.Select.Lexer

namespace GatewayQuery.Select

open Token (Kind)
open Grammar (Fuses Apart)

/-- The characters that spell a token. -/
def Token.Kind.spelling : Kind → List Char
  | .bare text => text.toList
  | .quoted text => '"' :: (text.toList ++ ['"'])
  | .star => ['*']
  | .ellipsis => ['.', '.', '.']
  | .comma => [',']
  | .colon => [':']
  | .doubleColon => [':', ':']
  | .bang => ['!']
  | .leftParen => ['(']
  | .rightParen => [')']
  | .dot => ['.']
  | .arrow => ['-', '>']
  | .doubleArrow => ['-', '>', '>']

/-- The kinds that a text can spell. -/
def Token.Kind.Spellable : Kind → Prop
  | .bare text => text.toList ≠ [] ∧ ∀ c ∈ text.toList, isNameChar c = true
  | .quoted text => '"' ∉ text.toList
  | _ => True

/-- All of the kinds can be spelled. -/
def AllSpellable (kinds : List Kind) : Prop := ∀ kind ∈ kinds, kind.Spellable

@[simp] theorem allSpellable_nil : AllSpellable [] := by simp [AllSpellable]

@[simp] theorem allSpellable_cons {kind : Kind} {kinds : List Kind} :
    AllSpellable (kind :: kinds) ↔ kind.Spellable ∧ AllSpellable kinds := by simp [AllSpellable]

@[simp] theorem allSpellable_append {kinds more : List Kind} :
    AllSpellable (kinds ++ more) ↔ AllSpellable kinds ∧ AllSpellable more := by
  simp [AllSpellable, or_imp, forall_and]

/-- The text is the spellings of the kinds, with blanks before, between and behind them. -/
inductive Spaced : List Char → List Kind → Prop
  | done {cs : List Char} (hblank : Text.dropBlank cs = []) : Spaced cs []
  | token {cs rest : List Char} {kind : Kind} {kinds : List Kind}
      (hfront : Text.dropBlank cs = kind.spelling ++ rest) (hspell : kind.Spellable)
      (hrest : Spaced rest kinds) : Spaced cs (kind :: kinds)

theorem Spaced.spellable {cs : List Char} {kinds : List Kind} (h : Spaced cs kinds) :
    AllSpellable kinds := by
  induction h with
  | done => exact allSpellable_nil
  | token _ hspell _ ih => exact allSpellable_cons.mpr ⟨hspell, ih⟩

/-- Whether the character, right behind the spelling of the kind, would be read with it. -/
def Token.Kind.continues : Kind → Char → Bool
  | .bare _, c => isNameChar c
  | .colon, c => c == ':'
  | .dot, c => c == '.'
  | .arrow, c => c == '>'
  | _, _ => false

/-! ### Characters of names -/

theorem isNameChar_iff {c : Char} : isNameChar c = true ↔ c.isAlphanum = true ∨ c = '_' := by
  simp [isNameChar]

theorem not_isBlank_of_isNameChar {c : Char} (h : isNameChar c = true) :
    Text.isBlank c = false := by
  rcases isNameChar_iff.mp h with halphanum | rfl
  · obtain ⟨hlow, hhigh⟩ := Text.isAlphanum_bounds halphanum
    simp only [Text.isBlank, Bool.or_eq_false_iff, Bool.and_eq_false_iff, decide_eq_false_iff_not,
      beq_eq_false_iff_ne]
    omega
  · decide

theorem ne_of_isNameChar {c symbol : Char} (h : isNameChar c = true)
    (hsymbol : isNameChar symbol = false) : c ≠ symbol := by
  rintro rfl
  rw [h] at hsymbol
  cases hsymbol

/-! ### What is read is spelled -/

namespace Lexeme

theorem readQuoted_ok {rest : List Char} {kind : Kind} (h : (readQuoted rest).found = .ok kind) :
    '"' :: rest = kind.spelling ++ (readQuoted rest).rest ∧ kind.Spellable := by
  have hsplit := List.takeWhile_append_dropWhile (p := (· != '"')) (l := rest)
  unfold readQuoted at h ⊢
  split at h
  · cases h
  · rename_i quote left hdrop
    rw [hdrop] at hsplit
    cases h
    have hquote := List.head?_dropWhile_not (· != '"') rest
    rw [hdrop] at hquote
    simp only [List.head?_cons, bne_eq_false_iff_eq] at hquote
    subst hquote
    refine ⟨?_, ?_⟩
    · simpa [Token.Kind.spelling] using hsplit.symm
    · intro hmem
      rw [String.toList_ofList] at hmem
      have hnot := List.all_takeWhile (p := (· != '"')) (l := rest)
      rw [List.all_eq_true] at hnot
      simpa using hnot _ hmem

theorem readBare_ok {c : Char} {rest : List Char} {kind : Kind} (hc : isNameChar c = true)
    (h : (readBare c rest).found = .ok kind) :
    c :: rest = kind.spelling ++ (readBare c rest).rest ∧ kind.Spellable := by
  cases h
  refine ⟨?_, by simp, ?_⟩
  · simp [readBare, Token.Kind.spelling]
  · intro d hd
    rw [String.toList_ofList, List.mem_cons] at hd
    rcases hd with rfl | hd
    · exact hc
    · exact List.all_eq_true.mp List.all_takeWhile d hd

theorem read_ok {c : Char} {rest : List Char} {kind : Kind} (h : (read c rest).found = .ok kind) :
    c :: rest = kind.spelling ++ (read c rest).rest ∧ kind.Spellable := by
  unfold read at h ⊢
  split at h
  case h_13 => exact readQuoted_ok h
  case h_14 =>
    split at h
    · rename_i hname
      simp only [if_pos hname]
      exact readBare_ok hname h
    · cases h
  all_goals
    cases h
    try exact ⟨rfl, trivial⟩

/-! ### What is spelled is read back -/

theorem readQuoted_of {text rest : List Char} (h : '"' ∉ text) :
    readQuoted (text ++ '"' :: rest) =
      ⟨.ok (.quoted (String.ofList text)), '"' :: text ++ ['"'], rest⟩ := by
  have hall : ∀ c ∈ text, (c != '"') = true := by
    intro c hc
    rw [bne_iff_ne]
    rintro rfl
    exact h hc
  unfold readQuoted
  rw [List.takeWhile_append_of_pos hall, List.dropWhile_append_of_pos hall]
  simp

theorem readBare_of (c : Char) {text rest : List Char} (h : ∀ d ∈ text, isNameChar d = true)
    (hrest : ∀ d ∈ rest.head?, isNameChar d = false) :
    readBare c (text ++ rest) = ⟨.ok (.bare (String.ofList (c :: text))), c :: text, rest⟩ := by
  have htake : rest.takeWhile isNameChar = [] := by
    cases rest with
    | nil => rfl
    | cons d rest => exact List.takeWhile_cons_of_neg (by simp [hrest d rfl])
  have hdrop : rest.dropWhile isNameChar = rest := by
    cases rest with
    | nil => rfl
    | cons d rest => exact List.dropWhile_cons_of_neg (by simp [hrest d rfl])
  unfold readBare
  rw [List.takeWhile_append_of_pos h, List.dropWhile_append_of_pos h, htake, hdrop,
    List.append_nil]

theorem read_of_isNameChar {c : Char} {rest : List Char} (h : isNameChar c = true) :
    read c rest = readBare c rest := by
  unfold read
  split
  case h_14 => rw [if_pos h]
  all_goals exact absurd h (by decide)

/-- A token is read from its spelling if what follows does not make it longer. -/
theorem read_spelling {kind : Kind} {rest : List Char} (h : kind.Spellable)
    (hrest : ∀ c ∈ rest.head?, kind.continues c = false) :
    ∃ c cs, kind.spelling ++ rest = c :: cs ∧ Text.isBlank c = false ∧
      (read c cs).found = .ok kind ∧ (read c cs).rest = rest := by
  cases kind with
  | bare text =>
    obtain ⟨hne, hall⟩ := h
    obtain ⟨c, cs, htext⟩ := List.exists_cons_of_ne_nil hne
    rw [htext] at hall
    have hc : isNameChar c = true := hall c (by simp)
    have hread := readBare_of c (fun d hd => hall d (List.mem_cons_of_mem c hd)) hrest
    refine ⟨c, cs ++ rest, by simp [Token.Kind.spelling, htext], not_isBlank_of_isNameChar hc, ?_⟩
    rw [read_of_isNameChar hc, hread, ← htext, String.ofList_toList]
    exact ⟨rfl, rfl⟩
  | quoted text =>
    have hread : read '"' (text.toList ++ '"' :: rest) = _ := readQuoted_of h
    refine ⟨'"', text.toList ++ '"' :: rest, by simp [Token.Kind.spelling], by decide, ?_⟩
    rw [hread, String.ofList_toList]
    exact ⟨rfl, rfl⟩
  | colon =>
    refine ⟨':', rest, rfl, by decide, ?_⟩
    cases rest with
    | nil => exact ⟨rfl, rfl⟩
    | cons d rest =>
      have hd : d ≠ ':' := by simpa [Token.Kind.continues] using hrest
      unfold read
      split <;> simp_all
  | dot =>
    refine ⟨'.', rest, rfl, by decide, ?_⟩
    cases rest with
    | nil => exact ⟨rfl, rfl⟩
    | cons d rest =>
      have hd : d ≠ '.' := by simpa [Token.Kind.continues] using hrest
      unfold read
      split <;> simp_all
  | arrow =>
    refine ⟨'-', '>' :: rest, rfl, by decide, ?_⟩
    cases rest with
    | nil => exact ⟨rfl, rfl⟩
    | cons d rest =>
      have hd : d ≠ '>' := by simpa [Token.Kind.continues] using hrest
      unfold read
      split <;> simp_all
  | _ => exact ⟨_, _, rfl, by decide, rfl, rfl⟩

end Lexeme

/-! ### Scanning -/

theorem Token.Kind.spelling_ne_nil {kind : Kind} (h : kind.Spellable) : kind.spelling ≠ [] := by
  cases kind with
  | bare text => exact h.1
  | _ => simp [Token.Kind.spelling]

/-- What does not fuse with a kind does not begin with a character that continues it. -/
theorem Token.Kind.continues_eq_false {kind next : Kind} {c : Char} (hnext : next.Spellable)
    (hc : next.spelling.head? = some c) (h : ¬Fuses kind next) : kind.continues c = false := by
  cases next with
  | bare text =>
    have hname : isNameChar c = true := hnext.2 c (List.mem_of_head? hc)
    cases kind with
    | bare => exact absurd trivial h
    | colon | dot | arrow =>
      simpa [Token.Kind.continues] using ne_of_isNameChar hname (by decide)
    | _ => rfl
  | _ =>
    cases hc
    cases kind <;> first | rfl | decide | exact absurd trivial h

namespace Tokens

theorem scan_nil (offset : Nat) {cs : List Char} (h : Text.dropBlank cs = []) :
    (scan offset cs).tokens = [] ∧ (scan offset cs).stop.fault = none := by
  rw [scan]
  split
  · exact ⟨rfl, rfl⟩
  · rename_i hcons
    rw [h] at hcons
    cases hcons

theorem scan_ok (offset : Nat) {cs rest : List Char} {c : Char} {kind : Kind}
    (h : Text.dropBlank cs = c :: rest) (hread : (Lexeme.read c rest).found = .ok kind) :
    ∃ span start, (scan offset cs).tokens =
        ⟨kind, span⟩ :: (scan start (Lexeme.read c rest).rest).tokens ∧
      (scan offset cs).stop = (scan start (Lexeme.read c rest).rest).stop := by
  rw [scan]
  split
  · rename_i hnil
    rw [h] at hnil
    cases hnil
  · rename_i d more hcons
    rw [h] at hcons
    cases hcons
    simp only [hread]
    exact ⟨_, _, rfl, rfl⟩

theorem scan_error (offset : Nat) {cs rest : List Char} {c : Char} {fault : Token.Fault}
    (h : Text.dropBlank cs = c :: rest) (hread : (Lexeme.read c rest).found = .error fault) :
    (scan offset cs).tokens = [] ∧ (scan offset cs).stop.fault = some fault := by
  rw [scan]
  split
  · rename_i hnil
    rw [h] at hnil
    cases hnil
  · rename_i d more hcons
    rw [h] at hcons
    cases hcons
    simp only [hread, and_self]

/-- Where no fault stops the scan, the text is its tokens and blanks. -/
theorem scan_spaced (offset : Nat) (cs : List Char) (h : (scan offset cs).stop.fault = none) :
    Spaced cs ((scan offset cs).tokens.map Token.kind) := by
  cases hcs : Text.dropBlank cs with
  | nil =>
    rw [(scan_nil offset hcs).1]
    exact .done hcs
  | cons c rest =>
    cases hread : (Lexeme.read c rest).found with
    | error fault =>
      rw [(scan_error offset hcs hread).2] at h
      cases h
    | ok kind =>
      obtain ⟨hsplit, hspell⟩ := Lexeme.read_ok hread
      obtain ⟨span, start, htokens, hstop⟩ := scan_ok offset hcs hread
      have hlt : (Lexeme.read c rest).rest.length < cs.length :=
        Nat.lt_of_le_of_lt (Lexeme.length_rest_read_le c rest) (Text.length_lt_of_dropBlank hcs)
      rw [hstop] at h
      rw [htokens]
      exact .token (hcs.trans hsplit) hspell (scan_spaced start (Lexeme.read c rest).rest h)
termination_by cs.length

/-- A text is read as tokens of these kinds, wherever it stands. -/
def Reads (cs : List Char) (kinds : List Kind) : Prop :=
  ∀ offset, (scan offset cs).stop.fault = none ∧ (scan offset cs).tokens.map Token.kind = kinds

theorem Reads.nil {cs : List Char} (h : Text.dropBlank cs = []) : Reads cs [] := by
  intro offset
  obtain ⟨htokens, hfault⟩ := scan_nil offset h
  exact ⟨hfault, by rw [htokens]; rfl⟩

theorem Reads.cons {cs rest : List Char} {c : Char} {kind : Kind} {kinds : List Kind}
    (h : Text.dropBlank cs = c :: rest) (hread : (Lexeme.read c rest).found = .ok kind)
    (hrest : Reads (Lexeme.read c rest).rest kinds) : Reads cs (kind :: kinds) := by
  intro offset
  obtain ⟨span, start, htokens, hstop⟩ := scan_ok offset h hread
  obtain ⟨hfault, hkinds⟩ := hrest start
  rw [hstop, htokens]
  exact ⟨hfault, by rw [List.map_cons, hkinds]⟩

/-- **Kinds of which no two side by side fuse are read back from their spellings.** -/
theorem reads_spelling {kinds : List Kind} (hspell : AllSpellable kinds) (hapart : Apart kinds) :
    Reads (kinds.flatMap Token.Kind.spelling) kinds := by
  induction kinds with
  | nil => exact .nil rfl
  | cons kind kinds ih =>
    obtain ⟨hhead, htail⟩ := List.isChain_cons.mp hapart
    have hrest : ∀ c ∈ (kinds.flatMap Token.Kind.spelling).head?, kind.continues c = false := by
      cases kinds with
      | nil => simp
      | cons next more =>
        have hnext : next.Spellable := hspell next (by simp)
        intro c hc
        rw [List.flatMap_cons, List.head?_append_of_ne_nil _
          (Token.Kind.spelling_ne_nil hnext)] at hc
        exact Token.Kind.continues_eq_false hnext hc (hhead next rfl)
    obtain ⟨c, cs, hcs, hblank, hfound, hleft⟩ :=
      Lexeme.read_spelling (hspell kind (by simp)) hrest
    have hdrop : Text.dropBlank (c :: cs) = c :: cs := by
      rw [Text.dropBlank, List.dropWhile_cons_of_neg (by simp [hblank])]
    have hmore := ih (fun kind hkind => hspell kind (by simp [hkind])) htail
    rw [← hleft] at hmore
    rw [List.flatMap_cons, hcs]
    exact .cons hdrop hfound hmore

end Tokens

end GatewayQuery.Select
