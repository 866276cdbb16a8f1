/-
Where the tokens of a text stand.

A text is blanks and tokens in turn, each token as long as it can be, up to the end or to the
first character that begins no token.  `Laid` says so for a text that begins at a byte offset, with
the place of every token, and without a lexer; `laid_scan` says that this is what scanning finds.
What is to be known about places is then an induction over the layout: they begin one after the
other, each at a boundary between two characters.

The lexemes of a text are its tokens and, as the last one, what stops them.
-/
import GatewayQuery.Proofs.Select.Longest
import GatewayQuery.Proofs.Text.Blank
import GatewayQuery.Proofs.Text.Span

namespace GatewayQuery.Select

open Text (byteLength_pos dropBlank_append dropBlank_cons)
open Token (Kind)

/-- The lexeme at which the tokens stop. -/
def Stop.lexeme (stop : Stop) : Lexeme :=
  match stop.fault with
  | some fault => .fault fault
  | none => .finish

namespace Tokens

/-- The tokens of a text and what stops them, each with its place. -/
def lexemes (tokens : Tokens) : List (Lexeme × Text.Span) :=
  tokens.tokens.map (fun token => (.token token.kind, token.span)) ++
    [(tokens.stop.lexeme, tokens.stop.span)]

@[simp] theorem lexemes_nil (stop : Stop) : lexemes ⟨[], stop⟩ = [(stop.lexeme, stop.span)] := rfl

@[simp] theorem lexemes_cons (token : Token) (more : List Token) (stop : Stop) :
    lexemes ⟨token :: more, stop⟩ = (.token token.kind, token.span) :: lexemes ⟨more, stop⟩ := rfl

/-- What a text holds when places do not count: the kinds of its tokens and the fault that stops
them. -/
def outline (tokens : Tokens) : List Kind × Option Token.Fault :=
  (tokens.tokens.map Token.kind, tokens.stop.fault)

/-- The text that begins at an offset is laid out as the tokens. -/
inductive Laid : (offset : Nat) → List Char → Tokens → Prop
  | finish {offset : Nat} {cs : List Char} (hblank : ∀ c ∈ cs, Text.isBlank c = true) :
      Laid offset cs ⟨[], ⟨none, .point (offset + Text.byteLength cs)⟩⟩
  | fault {offset stop : Nat} {gap rest : List Char} {c : Char} {why : Token.Fault}
      (hgap : ∀ d ∈ gap, Text.isBlank d = true) (hblank : Text.isBlank c = false)
      (hfault : Lexeme.Faulty c rest why)
      (hstop : ∃ inside after, rest = inside ++ after ∧
        stop = offset + Text.byteLength gap + Text.byteLength (c :: inside)) :
      Laid offset (gap ++ c :: rest) ⟨[], ⟨some why, ⟨offset + Text.byteLength gap, stop⟩⟩⟩
  | token {offset : Nat} {gap rest : List Char} {kind : Kind} {more : Tokens}
      (hgap : ∀ d ∈ gap, Text.isBlank d = true) (hspell : kind.Spellable)
      (hends : kind.EndsBefore rest)
      (hmore : Laid (offset + Text.byteLength gap + Text.byteLength kind.spelling) rest more) :
      Laid offset (gap ++ (kind.spelling ++ rest))
        ⟨⟨kind, ⟨offset + Text.byteLength gap,
            offset + Text.byteLength gap + Text.byteLength kind.spelling⟩⟩ :: more.tokens,
          more.stop⟩

theorem laid_scan (offset : Nat) (cs : List Char) : Laid offset cs (scan offset cs) := by
  fun_induction scan offset cs with
  | case1 offset cs start hnil =>
    have hcs := Text.takeWhile_append_dropBlank cs
    rw [hnil, List.append_nil] at hcs
    have hblank := @Text.isBlank_of_mem_takeWhile cs
    rw [hcs] at hblank
    simp only [start, hcs]
    exact .finish hblank
  | case2 offset cs start c rest hcons _ reading stop kind hfound more ih =>
    have hcs := Text.takeWhile_append_dropBlank cs
    obtain ⟨hread, hspell⟩ := Lexeme.read_ok hfound
    rw [hcons, hread] at hcs
    have hmore : Laid (start + Text.byteLength kind.spelling) reading.rest more := by
      rw [← Lexeme.spelling_read hfound]
      exact ih
    have hlaid :=
      Laid.token Text.isBlank_of_mem_takeWhile hspell (Lexeme.read_ends hfound) hmore
    rw [hcs, ← Lexeme.spelling_read hfound] at hlaid
    exact hlaid
  | case3 offset cs start c rest hcons _ reading stop why hfound =>
    have hcs := Text.takeWhile_append_dropBlank cs
    rw [hcons] at hcs
    obtain ⟨inside, hspelling⟩ := Lexeme.spelling_read_cons c rest
    have hread := Lexeme.read_append c rest
    rw [hspelling, List.cons_append] at hread
    have hlaid : Laid offset (cs.takeWhile Text.isBlank ++ c :: rest) ⟨[], ⟨some why,
        ⟨start, start + Text.byteLength (c :: inside)⟩⟩⟩ :=
      .fault Text.isBlank_of_mem_takeWhile (Text.isBlank_of_dropBlank hcons)
        (Lexeme.read_error hfound) ⟨inside, _, (List.cons.inj hread).2.symm, rfl⟩
    rw [hcs, ← hspelling] at hlaid
    exact hlaid

/-! ### Places -/

variable {offset : Nat} {cs : List Char} {tokens : Tokens}

/-- The lexemes of a text begin one after the other, none before the text does. -/
theorem Laid.increasing (h : Laid offset cs tokens) :
    (∀ lexeme ∈ tokens.lexemes, offset ≤ lexeme.2.start) ∧
      tokens.lexemes.Pairwise fun a b => a.2.start < b.2.start := by
  induction h with
  | finish => simp [Text.Span.point]
  | fault => simp
  | token _ hspell _ _ ih =>
    obtain ⟨hfrom, hpairs⟩ := ih
    have hpos := byteLength_pos (Token.Kind.spelling_ne_nil hspell)
    simp only [lexemes_cons, List.pairwise_cons, List.mem_cons, forall_eq_or_imp]
    refine ⟨⟨by omega, fun lexeme hmem => ?_⟩, fun lexeme hmem => ?_, hpairs⟩
    · have := hfrom lexeme hmem
      omega
    · have := hfrom lexeme hmem
      omega

/-- The lexemes cut the text, and only blanks are left out between them. -/
theorem Laid.covers (h : Laid offset cs tokens) :
    Text.Covers offset cs (tokens.lexemes.map Prod.snd) := by
  induction h with
  | @finish offset cs hblank =>
    have hend : Text.Covers offset (cs ++ ([] ++ []))
        [⟨offset + Text.byteLength cs, offset + Text.byteLength cs + Text.byteLength []⟩] :=
      .cons hblank .nil
    simpa [Text.Span.point] using hend
  | fault hgap _ _ hstop =>
    obtain ⟨inside, after, rfl, rfl⟩ := hstop
    rw [← List.cons_append]
    exact .cons hgap .nil
  | token hgap _ _ _ ih => exact .cons hgap ih

/-- Every lexeme begins between two characters of the text. -/
theorem Laid.boundary (h : Laid offset cs tokens) :
    ∀ lexeme ∈ tokens.lexemes, ∃ front back, cs = front ++ back ∧
      lexeme.2.start = offset + Text.byteLength front := by
  intro lexeme hmem
  obtain ⟨front, inside, back, hcs, hspan⟩ :=
    h.covers.piece lexeme.2 (List.mem_map_of_mem hmem)
  exact ⟨front, inside ++ back, hcs, by rw [hspan]⟩

theorem Laid.spellable (h : Laid offset cs tokens) :
    AllSpellable (tokens.tokens.map Token.kind) := by
  induction h with
  | finish | fault => exact allSpellable_nil
  | token _ hspell _ _ ih => exact allSpellable_cons.mpr ⟨hspell, ih⟩

/-! ### Outlines -/

theorem outline_finish (offset : Nat) {cs : List Char} (h : Text.dropBlank cs = []) :
    (scan offset cs).outline = ([], none) := by
  obtain ⟨htokens, hfault⟩ := scan_nil offset h
  rw [outline, htokens, hfault]
  rfl

theorem outline_fault (offset : Nat) {cs rest : List Char} {c : Char} {why : Token.Fault}
    (h : Text.dropBlank cs = c :: rest) (hfault : Lexeme.Faulty c rest why) :
    (scan offset cs).outline = ([], some why) := by
  obtain ⟨htokens, hstop⟩ := scan_error offset h hfault.read
  rw [outline, htokens, hstop]
  rfl

theorem outline_token (offset : Nat) {cs rest : List Char} {kind : Kind}
    (h : Text.dropBlank cs = kind.spelling ++ rest) (hspell : kind.Spellable)
    (hends : kind.EndsBefore rest) :
    ∃ start, (scan offset cs).outline =
      (kind :: (scan start rest).outline.1, (scan start rest).outline.2) := by
  obtain ⟨c, cs, hcs, -, hread, hrest⟩ := Lexeme.read_of_ends hspell hends
  obtain ⟨span, start, htokens, hstop⟩ := scan_ok offset (h.trans hcs) hread
  refine ⟨start, ?_⟩
  rw [outline, htokens, hstop, hrest]
  rfl

theorem dropBlank_spelling {kind : Kind} (h : kind.Spellable) {rest : List Char}
    (hends : kind.EndsBefore rest) :
    Text.dropBlank (kind.spelling ++ rest) = kind.spelling ++ rest := by
  obtain ⟨c, cs, hcs, hblank, -⟩ := Lexeme.read_of_ends h hends
  rw [hcs, dropBlank_cons hblank]

/-- Where a text stands says nothing about what it holds. -/
theorem Laid.outline (h : Laid offset cs tokens) (start : Nat) :
    (scan start cs).outline = tokens.outline := by
  induction h generalizing start with
  | @finish offset cs hblank =>
    refine outline_finish start ?_
    rw [← List.append_nil cs, dropBlank_append hblank]
    rfl
  | fault hgap hblank hfault =>
    refine outline_fault start ?_ hfault
    rw [dropBlank_append hgap, dropBlank_cons hblank]
  | token hgap hspell hends _ ih =>
    obtain ⟨start', houtline⟩ := outline_token start
      (by rw [dropBlank_append hgap, dropBlank_spelling hspell hends]) hspell hends
    rw [houtline, ih start']
    rfl

/-! ### Blanks between tokens -/

/-- The offset lies inside no lexeme. -/
def Between (tokens : Tokens) (offset : Nat) : Prop :=
  ∀ lexeme ∈ tokens.lexemes, ¬(lexeme.2.start < offset ∧ offset < lexeme.2.stop)

@[simp] theorem between_cons {token : Token} {more : List Token} {stop : Stop} {offset : Nat} :
    Between ⟨token :: more, stop⟩ offset ↔
      ¬(token.span.start < offset ∧ offset < token.span.stop) ∧ Between ⟨more, stop⟩ offset := by
  simp only [Between, lexemes_cons, List.mem_cons, forall_eq_or_imp]

/-- A front of a text lies in the gap before the first token, or it reaches into what follows. -/
theorem front_in_gap {gap rest front back : List Char}
    (hgap : ∀ c ∈ gap, Text.isBlank c = true) (h : gap ++ rest = front ++ back) :
    (∀ c ∈ front, Text.isBlank c = true) ∨
      ∃ more, more ≠ [] ∧ front = gap ++ more ∧ rest = more ++ back := by
  rcases List.append_eq_append_iff.mp h with ⟨more, rfl, hrest⟩ | ⟨more, rfl, -⟩
  · cases more with
    | nil => exact .inl (by simpa using hgap)
    | cons c more => exact .inr ⟨c :: more, by simp, rfl, hrest⟩
  · exact .inl fun c hc => hgap c (by simp [hc])

/-- A front that reaches into a token, and does not end inside of it, holds all of it. -/
theorem front_past_token {spelling rest more back : List Char}
    (h : spelling ++ rest = more ++ back) (hne : more ≠ [])
    (hlength : Text.byteLength more < Text.byteLength spelling → more = []) :
    ∃ left, more = spelling ++ left ∧ rest = left ++ back := by
  rcases List.append_eq_append_iff.mp h with hpast | ⟨cut, rfl, rfl⟩
  · exact hpast
  · cases cut with
    | nil => exact ⟨[], by simp⟩
    | cons c cut =>
      refine absurd (hlength ?_) hne
      have := byteLength_pos (List.cons_ne_nil c cut)
      rw [Text.byteLength_append]
      omega

/-- In the gap before the first lexeme blanks are dropped with those that stand there. -/
theorem dropBlank_insert {front blanks back : List Char}
    (hblanks : ∀ c ∈ blanks, Text.isBlank c = true) (hfront : ∀ c ∈ front, Text.isBlank c = true) :
    Text.dropBlank (front ++ (blanks ++ back)) = Text.dropBlank (front ++ back) := by
  rw [dropBlank_append hfront, dropBlank_append hblanks, dropBlank_append hfront]

/-- **Blanks between two tokens change no token,** nor the fault that stops them. -/
theorem Laid.insert (h : Laid offset cs tokens) {front blanks back : List Char}
    (hcs : cs = front ++ back) (hblanks : ∀ c ∈ blanks, Text.isBlank c = true)
    (hbetween : tokens.Between (offset + Text.byteLength front)) (start : Nat) :
    (scan start (front ++ (blanks ++ back))).outline = tokens.outline := by
  induction h generalizing front start with
  | finish hblank =>
    subst hcs
    refine outline_finish start ?_
    rw [dropBlank_insert hblanks fun c hc => hblank c (by simp [hc]),
      ← List.append_nil (front ++ back), dropBlank_append hblank]
    rfl
  | fault hgap hblank hfault =>
    rcases front_in_gap hgap hcs with hfront | ⟨reach, hne, rfl, hreach⟩
    · refine outline_fault start ?_ hfault
      rw [dropBlank_insert hblanks hfront, ← hcs, dropBlank_append hgap, dropBlank_cons hblank]
    · obtain ⟨c, reach, rfl⟩ := List.exists_cons_of_ne_nil hne
      obtain ⟨rfl, rfl⟩ := List.cons.inj hreach
      refine outline_fault start ?_ (hfault.insert hblanks)
      rw [List.append_assoc, dropBlank_append hgap, List.cons_append, dropBlank_cons hblank]
  | @token offset gap rest kind more hgap hspell hends hmore ih =>
    rcases front_in_gap hgap hcs with hfront | ⟨reach, hne, rfl, hreach⟩
    · obtain ⟨start', houtline⟩ := outline_token start
        (by rw [dropBlank_insert hblanks hfront, ← hcs, dropBlank_append hgap,
          dropBlank_spelling hspell hends]) hspell hends
      rw [houtline, hmore.outline start']
      rfl
    · obtain ⟨hfirst, hothers⟩ := between_cons.mp hbetween
      simp only [Text.byteLength_append] at hfirst hothers
      obtain ⟨left, rfl, rfl⟩ := front_past_token hreach hne fun hlt => by
        have := byteLength_pos hne
        omega
      have hends' := hends.insert hblanks
      have hdrop : Text.dropBlank (gap ++ (kind.spelling ++ left) ++ (blanks ++ back)) =
          kind.spelling ++ (left ++ (blanks ++ back)) := by
        rw [List.append_assoc, List.append_assoc, dropBlank_append hgap,
          dropBlank_spelling hspell hends']
      obtain ⟨start', houtline⟩ := outline_token start hdrop hspell hends'
      have hbetween' : more.Between (offset + Text.byteLength gap +
          Text.byteLength kind.spelling + Text.byteLength left) := by
        rw [Text.byteLength_append, ← Nat.add_assoc, ← Nat.add_assoc] at hothers
        exact hothers
      rw [houtline, ih rfl hbetween' start']
      rfl

end Tokens
end GatewayQuery.Select
