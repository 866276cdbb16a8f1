/-
A token is as long as it can be.

`Proofs/Select/Spelling.lean` reads a token back from its spelling if the next character does not
continue it.  Here the converse is added, so that both say the same: what follows a token that was
read does not make it longer.  For a dot one character does not decide that, since two dots are
two tokens and only three are one; `EndsBefore` says how far it looks.

Where no token begins there are three reasons, and they look at what follows as well: a quote
without a second one, a dash without an arrow's head, and any other character at all.
-/
import GatewayQuery.Proofs.Select.Spelling

namespace GatewayQuery.Select

open Token (Kind)

/-- What follows does not make the kind longer: two more dots do that to a dot, for the other kinds
the next character decides. -/
def Token.Kind.EndsBefore : Kind → List Char → Prop
  | .dot, rest => ¬['.', '.'] <+: rest
  | kind, rest => ∀ c ∈ rest.head?, kind.continues c = false

namespace Lexeme

/-- Why no token begins at a character. -/
inductive Faulty : Char → List Char → Token.Fault → Prop
  | unterminated {rest : List Char} (hquote : '"' ∉ rest) : Faulty '"' rest .unterminated
  | dash {rest : List Char} (hrest : rest.head? ≠ some '>') : Faulty '-' rest (.unexpected '-')
  | other {c : Char} {rest : List Char} (hname : isNameChar c = false)
      (hsymbol : c ∉ ['*', ',', '!', '(', ')', ':', '.', '-', '"']) : Faulty c rest (.unexpected c)

/-! ### Nothing is lost -/

theorem readQuoted_append (rest : List Char) :
    (readQuoted rest).spelling ++ (readQuoted rest).rest = '"' :: rest := by
  have hsplit := List.takeWhile_append_dropWhile (p := (· != '"')) (l := rest)
  unfold readQuoted
  split
  · rename_i hdrop
    rw [hdrop, List.append_nil] at hsplit
    simp only [hsplit, List.append_nil]
  · rename_i quote left hdrop
    rw [hdrop] at hsplit
    simpa using hsplit

/-- What spells a lexeme and what follows it are the text. -/
theorem read_append (c : Char) (rest : List Char) :
    (read c rest).spelling ++ (read c rest).rest = c :: rest := by
  unfold read
  split
  case h_13 => exact readQuoted_append _
  case h_14 =>
    split
    · simp [readBare]
    · rfl
  all_goals rfl

/-- What spells a lexeme begins with the character at which it is read. -/
theorem spelling_read_cons (c : Char) (rest : List Char) :
    ∃ inside, (read c rest).spelling = c :: inside := by
  unfold read
  split
  case h_13 =>
    unfold readQuoted
    split <;> exact ⟨_, rfl⟩
  case h_14 => split <;> exact ⟨_, rfl⟩
  all_goals exact ⟨_, rfl⟩

theorem spelling_read {c : Char} {rest : List Char} {kind : Kind}
    (h : (read c rest).found = .ok kind) : (read c rest).spelling = kind.spelling := by
  have hread := (read_ok h).1
  rw [← read_append] at hread
  exact List.append_cancel_right hread

/-! ### Faults -/

theorem readQuoted_error {rest : List Char} {why : Token.Fault}
    (h : (readQuoted rest).found = .error why) : Faulty '"' rest why := by
  have hsplit := List.takeWhile_append_dropWhile (p := (· != '"')) (l := rest)
  unfold readQuoted at h
  split at h
  · rename_i hdrop
    cases h
    rw [hdrop, List.append_nil] at hsplit
    refine .unterminated fun hmem => ?_
    rw [← hsplit] at hmem
    simpa using List.all_eq_true.mp List.all_takeWhile '"' hmem
  · cases h

theorem read_error {c : Char} {rest : List Char} {why : Token.Fault}
    (h : (read c rest).found = .error why) : Faulty c rest why := by
  unfold read at h
  split at h
  case h_13 => exact readQuoted_error h
  case h_12 hdouble hsingle =>
    cases h
    refine .dash fun hhead => ?_
    obtain ⟨more, rfl⟩ := List.head?_eq_some_iff.mp hhead
    exact hsingle more rfl
  case h_14 =>
    split at h
    · cases h
    · rename_i hname
      cases h
      refine .other (by simpa using hname) ?_
      simp_all
  all_goals cases h

theorem readQuoted_of_not_mem {rest : List Char} (h : '"' ∉ rest) :
    (readQuoted rest).found = .error .unterminated := by
  have hall : ∀ c ∈ rest, (c != '"') = true := by
    intro c hc
    rw [bne_iff_ne]
    rintro rfl
    exact h hc
  have hdrop : (rest ++ []).dropWhile (· != '"') = [] := List.dropWhile_append_of_pos hall
  rw [List.append_nil] at hdrop
  unfold readQuoted
  rw [hdrop]

theorem Faulty.read {c : Char} {rest : List Char} {why : Token.Fault} (h : Faulty c rest why) :
    (read c rest).found = .error why := by
  cases h with
  | unterminated hquote => exact readQuoted_of_not_mem hquote
  | dash hrest =>
    unfold Lexeme.read
    split <;> simp_all
  | other hname hsymbol =>
    unfold Lexeme.read
    split <;> simp_all

/-! ### Ends of tokens -/

theorem readBare_ends {c : Char} {rest : List Char} {kind : Kind}
    (h : (readBare c rest).found = .ok kind) : kind.EndsBefore (readBare c rest).rest := by
  cases h
  intro d hd
  have hnot := List.head?_dropWhile_not isNameChar rest
  rw [show rest.dropWhile isNameChar = (readBare c rest).rest from rfl, hd] at hnot
  exact hnot

/-- A token that is read is not made longer by what follows it. -/
theorem read_ends {c : Char} {rest : List Char} {kind : Kind}
    (h : (read c rest).found = .ok kind) : kind.EndsBefore (read c rest).rest := by
  unfold read at h ⊢
  split at h
  case h_7 hdouble =>
    cases h
    intro d hd
    obtain ⟨more, rfl⟩ := List.head?_eq_some_iff.mp hd
    simp only [Token.Kind.continues, beq_eq_false_iff_ne]
    rintro rfl
    exact hdouble more rfl
  case h_9 htriple =>
    cases h
    rintro ⟨more, rfl⟩
    exact htriple more rfl
  case h_11 hdouble =>
    cases h
    intro d hd
    obtain ⟨more, rfl⟩ := List.head?_eq_some_iff.mp hd
    simp only [Token.Kind.continues, beq_eq_false_iff_ne]
    rintro rfl
    exact hdouble more rfl
  case h_13 =>
    unfold readQuoted at h ⊢
    split at h
    · cases h
    · cases h
      exact fun _ _ => rfl
  case h_14 =>
    split at h
    · rename_i hname
      simp only [if_pos hname]
      exact readBare_ends h
    · cases h
  all_goals
    cases h
    try exact fun _ _ => rfl

/-- A token is read from its spelling exactly if what follows does not make it longer. -/
theorem read_of_ends {kind : Kind} {rest : List Char} (h : kind.Spellable)
    (hrest : kind.EndsBefore rest) :
    ∃ c cs, kind.spelling ++ rest = c :: cs ∧ Text.isBlank c = false ∧
      (read c cs).found = .ok kind ∧ (read c cs).rest = rest := by
  cases kind with
  | dot =>
    refine ⟨'.', rest, rfl, by decide, ?_⟩
    have hshort : ∀ more, rest ≠ '.' :: '.' :: more := by
      rintro more rfl
      exact hrest ⟨more, rfl⟩
    unfold read
    split <;> simp_all
  | _ => exact read_spelling h hrest

end Lexeme

/-! ### Blanks -/

theorem not_isBlank_of_continues {kind : Kind} {c : Char} (h : kind.continues c = true) :
    Text.isBlank c = false := by
  cases kind <;> simp only [Token.Kind.continues, beq_iff_eq, Bool.false_eq_true] at h
  · exact not_isBlank_of_isNameChar h
  all_goals
    subst h
    decide

theorem ne_of_isBlank {c symbol : Char} (h : Text.isBlank c = true)
    (hsymbol : Text.isBlank symbol = false) : c ≠ symbol := by
  rintro rfl
  rw [h] at hsymbol
  cases hsymbol

variable {front blanks back : List Char} (hblanks : ∀ c ∈ blanks, Text.isBlank c = true)
include hblanks

/-- The first character is the same with blanks in between, or it is a blank. -/
theorem head?_insert {c : Char} (h : c ∈ (front ++ (blanks ++ back)).head?) :
    c ∈ (front ++ back).head? ∨ Text.isBlank c = true := by
  cases front with
  | cons d front => exact .inl h
  | nil =>
    cases blanks with
    | nil => exact .inl h
    | cons blank blanks =>
      obtain rfl : blank = c := by simpa using h
      exact .inr (hblanks blank (by simp))

/-- Blanks do not make a token longer, wherever they are put behind it. -/
theorem Token.Kind.EndsBefore.insert {kind : Kind} (h : kind.EndsBefore (front ++ back)) :
    kind.EndsBefore (front ++ (blanks ++ back)) := by
  have hfirst : (∀ c ∈ (front ++ back).head?, kind.continues c = false) →
      ∀ c ∈ (front ++ (blanks ++ back)).head?, kind.continues c = false := by
    intro hfirst c hc
    rcases head?_insert hblanks hc with hc | hblank
    · exact hfirst c hc
    · by_contra hcontinues
      have := not_isBlank_of_continues (by simpa using hcontinues)
      rw [hblank] at this
      cases this
  cases kind with
  | dot =>
    -- Two dots stand in front of the first blank if they stand there at all.
    rintro hdots
    cases blanks with
    | nil => exact h hdots
    | cons blank blanks =>
      have hblank : '.' ≠ blank := (ne_of_isBlank (hblanks blank (by simp)) (by decide)).symm
      match front with
      | [] => simp [hblank] at hdots
      | [c] => simp [hblank] at hdots
      | c :: d :: front =>
        simp only [List.cons_append, List.cons_prefix_cons, List.nil_prefix, and_true] at hdots
        obtain ⟨rfl, rfl⟩ := hdots
        exact h ⟨front ++ back, rfl⟩
  | _ => exact hfirst h

theorem Lexeme.Faulty.insert {c : Char} {why : Token.Fault} (h : Faulty c (front ++ back) why) :
    Faulty c (front ++ (blanks ++ back)) why := by
  cases h with
  | unterminated hquote =>
    refine .unterminated fun hmem => ?_
    simp only [List.mem_append, not_or] at hmem hquote
    rcases hmem with hmem | hmem | hmem
    · exact hquote.1 hmem
    · exact ne_of_isBlank (hblanks _ hmem) (by decide) rfl
    · exact hquote.2 hmem
  | dash hrest =>
    refine .dash fun hhead => ?_
    rcases head?_insert hblanks hhead with hhead | hblank
    · exact hrest hhead
    · exact ne_of_isBlank hblank (by decide) rfl
  | other hname hsymbol => exact .other hname hsymbol

end GatewayQuery.Select
