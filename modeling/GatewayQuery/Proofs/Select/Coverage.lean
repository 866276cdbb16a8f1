/-
Nothing of a text is lost between its tokens.

The tokens of a text and what stops them cover it: they stand one behind the other, each on whole
characters, and what lies before the end of the last one and in none of them is blank.  What a token
covers is its spelling, and what follows does not make it longer.  A fault stops them where no token
begins; if the end of the text does, it is the whole text that is covered.  All of this is read off
the layout (`Proofs/Select/Layout.lean`), which says where each lexeme stands.

That the scan stops at the first lexeme that is no token is said against reading on
(`Select.lexemes`), which does not stop: what the scan finds is what reading on finds first.
-/
import GatewayQuery.Proofs.Select.Layout

namespace GatewayQuery.Select

open Token (Kind)

namespace Tokens

variable {offset : Nat} {cs : List Char} {tokens : Tokens}

/-! ### Where the lexemes stand -/

/-- A token is spelled at its place and ends before what follows. -/
theorem Laid.spelled (h : Laid offset cs tokens) {kind : Kind} {span : Text.Span}
    (hmem : (.token kind, span) ∈ tokens.lexemes) :
    ∃ front back, cs = front ++ (kind.spelling ++ back) ∧
      span = ⟨offset + Text.byteLength front,
        offset + Text.byteLength front + Text.byteLength kind.spelling⟩ ∧
      kind.Spellable ∧ kind.EndsBefore back := by
  induction h with
  | finish => simp [Stop.lexeme] at hmem
  | fault => simp [Stop.lexeme] at hmem
  | @token offset gap rest found more _ hspell hends _ ih =>
    rw [lexemes_cons, List.mem_cons] at hmem
    rcases hmem with hfirst | hlater
    · obtain ⟨hkind, rfl⟩ := Prod.mk.inj hfirst
      obtain rfl := Lexeme.token.inj hkind
      exact ⟨gap, rest, rfl, rfl, hspell, hends⟩
    · obtain ⟨front, back, rfl, rfl, hkind⟩ := ih hlater
      refine ⟨gap ++ (found.spelling ++ front), back, by simp, ?_, hkind⟩
      simp only [Text.byteLength_append, Nat.add_assoc]

/-- A fault stands where no token begins. -/
theorem Laid.faulty (h : Laid offset cs tokens) {why : Token.Fault} {span : Text.Span}
    (hmem : (.fault why, span) ∈ tokens.lexemes) :
    ∃ front c back, cs = front ++ c :: back ∧ span.start = offset + Text.byteLength front ∧
      Lexeme.Faulty c back why := by
  induction h with
  | finish => simp [Stop.lexeme] at hmem
  | @fault offset stop gap rest c found _ _ hfault =>
    obtain ⟨rfl, rfl⟩ : why = found ∧ span = ⟨offset + Text.byteLength gap, stop⟩ := by
      simpa [Stop.lexeme] using hmem
    exact ⟨gap, c, rest, rfl, rfl, hfault⟩
  | @token offset gap rest found more _ _ _ _ ih =>
    rw [lexemes_cons, List.mem_cons] at hmem
    rcases hmem with hfirst | hlater
    · cases hfirst
    · obtain ⟨front, c, back, rfl, hstart, hfault⟩ := ih hlater
      refine ⟨gap ++ (found.spelling ++ front), c, back, by simp, ?_, hfault⟩
      simp only [hstart, Text.byteLength_append, Nat.add_assoc]

/-- The end of a text stands at its end. -/
theorem Laid.finished (h : Laid offset cs tokens) {span : Text.Span}
    (hmem : (.finish, span) ∈ tokens.lexemes) :
    span = .point (offset + Text.byteLength cs) := by
  induction h with
  | finish => simpa [Stop.lexeme] using hmem
  | fault => simp [Stop.lexeme] at hmem
  | token _ _ _ _ ih =>
    rw [lexemes_cons, List.mem_cons] at hmem
    rcases hmem with hfirst | hlater
    · cases hfirst
    · rw [ih hlater]
      simp only [Text.byteLength_append, Nat.add_assoc]

/-! ### Where they end -/

/-- All but the last of the lexemes are tokens. -/
theorem lexemes_last (tokens : Tokens) :
    ∃ front last, tokens.lexemes = front ++ [last] ∧
      (∀ lexeme ∈ front, ∃ kind, lexeme.1 = .token kind) ∧ ∀ kind, last.1 ≠ .token kind := by
  refine ⟨_, _, rfl, fun lexeme hmem => ?_, fun kind => ?_⟩
  · obtain ⟨token, -, rfl⟩ := List.mem_map.mp hmem
    exact ⟨token.kind, rfl⟩
  · unfold Stop.lexeme
    split <;> simp

/-- Reading on finds first what the scan finds. -/
theorem lexemes_scan (offset : Nat) (cs : List Char) :
    Select.lexemes offset cs (scan offset cs).lexemes.length = (scan offset cs).lexemes := by
  fun_induction scan offset cs with
  | case1 offset cs start hnil =>
    have hnext : Lexeme.next offset cs = (.finish, .point start, []) := by
      simp only [Lexeme.next, hnil, start]
    rw [lexemes_nil, List.length_singleton, Select.lexemes, hnext]
    rfl
  | case2 offset cs start c rest hcons _ reading stop kind hfound more ih =>
    have hnext : Lexeme.next offset cs = (.token kind, ⟨start, stop⟩, reading.rest) := by
      simp only [Lexeme.next, hcons, hfound, reading, start, stop]
    rw [lexemes_cons, List.length_cons, Select.lexemes, hnext]
    exact congrArg _ ih
  | case3 offset cs start c rest hcons _ reading stop why hfound =>
    have hnext : Lexeme.next offset cs = (.fault why, ⟨start, stop⟩, reading.rest) := by
      simp only [Lexeme.next, hcons, hfound, reading, start, stop]
    rw [lexemes_nil, List.length_singleton, Select.lexemes, hnext]
    rfl

end Tokens

/-! ### A whole text -/

/-- The lexemes account for every character of the text. -/
structure Accounts (input : String) (lexemes : List (Lexeme × Text.Span)) : Prop where
  /-- They stand one behind the other. -/
  ordered : lexemes.Pairwise fun lexeme next => lexeme.2.stop ≤ next.2.start
  /-- Each is a piece of the text. -/
  piece : ∀ lexeme ∈ lexemes, ∃ front inside back, input.toList = front ++ (inside ++ back) ∧
    lexeme.2 = ⟨Text.byteLength front, Text.byteLength front + Text.byteLength inside⟩
  /-- A character before the end of the last one is in one of them, or it is blank. -/
  blank : ∀ front c back, input.toList = front ++ c :: back →
    (∃ lexeme ∈ lexemes, Text.byteLength front < lexeme.2.stop) →
    (∀ lexeme ∈ lexemes, ¬lexeme.2.Holds (Text.byteLength front)) → Text.isBlank c = true
  /-- A token is spelled where it stands, and what follows does not make it longer. -/
  spelled : ∀ kind span, (.token kind, span) ∈ lexemes → kind.Spellable ∧
    span.slice input = String.ofList kind.spelling ∧
    kind.EndsBefore ((Text.Span.point span.stop).remainder input).toList
  /-- All but the last are tokens, and the last is none. -/
  last : ∃ tokens last, lexemes = tokens ++ [last] ∧
    (∀ lexeme ∈ tokens, ∃ kind, lexeme.1 = .token kind) ∧ ∀ kind, last.1 ≠ .token kind
  /-- Where the last is a fault, it stands at a character at which no token begins. -/
  fault : ∀ why span, (.fault why, span) ∈ lexemes → ∃ front c back,
    input.toList = front ++ c :: back ∧ span.start = Text.byteLength front ∧
      Lexeme.Faulty c back why
  /-- Where the last is the end of the text, it stands there, and every character of the text is in
  a token or blank. -/
  finish : ∀ span, (.finish, span) ∈ lexemes → span = .point (Text.byteLength input.toList) ∧
    ∀ front c back, input.toList = front ++ c :: back →
      (∀ lexeme ∈ lexemes, ¬lexeme.2.Holds (Text.byteLength front)) → Text.isBlank c = true

variable {input : String} {tokens : Tokens}

namespace Tokens

theorem Laid.blank (h : Laid 0 input.toList tokens) {front back : List Char} {c : Char}
    (hinput : input.toList = front ++ c :: back)
    (hbefore : ∃ lexeme ∈ tokens.lexemes, Text.byteLength front < lexeme.2.stop)
    (houtside : ∀ lexeme ∈ tokens.lexemes, ¬lexeme.2.Holds (Text.byteLength front)) :
    Text.isBlank c = true := by
  refine h.covers.blank hinput ?_ ?_
  · obtain ⟨lexeme, hmem, hlt⟩ := hbefore
    exact ⟨lexeme.2, List.mem_map_of_mem hmem, by rwa [Nat.zero_add]⟩
  · intro span hmem
    obtain ⟨lexeme, hlexeme, rfl⟩ := List.mem_map.mp hmem
    rw [Nat.zero_add]
    exact houtside lexeme hlexeme

theorem Laid.accounts (h : Laid 0 input.toList tokens) : Accounts input tokens.lexemes where
  ordered := List.pairwise_map.mp h.covers.ordered.2
  piece lexeme hmem := by
    have hpiece := h.covers.piece lexeme.2 (List.mem_map_of_mem hmem)
    simpa only [Nat.zero_add] using hpiece
  blank _ _ _ hinput := h.blank hinput
  spelled kind span hmem := by
    obtain ⟨front, back, hinput, rfl, hspell, hends⟩ := h.spelled hmem
    have hbehind : input.toList = (front ++ kind.spelling) ++ back := by
      rw [hinput, List.append_assoc]
    have hremainder := Text.remainder_append _ _ (Text.byteLength (front ++ kind.spelling)) hbehind
    rw [Text.byteLength_append] at hremainder
    simp only [Nat.zero_add]
    refine ⟨hspell, Text.slice_append front kind.spelling back hinput, ?_⟩
    rw [Text.Span.point, hremainder, String.toList_ofList]
    exact hends
  last := lexemes_last tokens
  fault why span hmem := by
    have hfaulty := h.faulty hmem
    simpa only [Nat.zero_add] using hfaulty
  finish span hmem := by
    have hspan := h.finished hmem
    rw [Nat.zero_add] at hspan
    refine ⟨hspan, fun front c back hinput => h.blank hinput ⟨_, hmem, ?_⟩⟩
    have := c.utf8Size_pos
    simp only [hspan, Text.Span.point, hinput, Text.byteLength_append, Text.byteLength_cons]
    omega

end Tokens

/-- **The lexemes of a text account for every character of it,** and they are those that reading on
finds up to the first that is no token. -/
theorem ofString_accounts (input : String) :
    Accounts input (Tokens.ofString input).lexemes ∧
      (Tokens.ofString input).lexemes =
        lexemes 0 input.toList (Tokens.ofString input).lexemes.length :=
  ⟨(Tokens.laid_scan 0 input.toList).accounts, (Tokens.lexemes_scan 0 input.toList).symm⟩

end GatewayQuery.Select
