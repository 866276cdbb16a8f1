/-
Runs of the cursor.

While the parser has some tokens left, the cursor stands in front of the same ones, and its log is
that of a cursor that has passed one lexeme at a time: this is `At`, and each step keeps it.  A step
moves where it has seen a token, so there is always a lexeme behind the one that it stands at, and
the check that would hold it at the last one is never needed.

What a run comes to in front of tokens is told by one of three relations: the value that it gives
(`Yields`), the refusal that it ends with (`Refuses`), or another run that it goes on as (`Leads`).
They compose along `>>=`, so that no proof looks at a log but those of the two moves.  A step
`Follows` one of the parser when the first two agree with what that comes to.
-/
import GatewayQuery.Proofs.Select.Cursor

namespace GatewayQuery.Select.Cursor

open GatewayQuery.Select.Parser (Free Gives Unnamed front place free_iff_front front_cons
  lexemes_append lexemes_eq_front)

variable {α β : Type} {all : Tokens} {cursor : Cursor} {ts mid rest : List Token}
  {value : α} {result : β} {run : Run α} {next : α → Run β} {refusal : Refusal}

/-! ### The log -/

/-- One lexeme further on. -/
def onward (cursor : Cursor) : Cursor :=
  ⟨cursor.position + 1, cursor.moves ++ [(cursor.position, cursor.position + 1)], cursor.turns⟩

/-- At the beginning of a turn. -/
def turning (cursor : Cursor) : Cursor :=
  { cursor with turns := cursor.turns ++ [cursor.position] }

/-- The cursor came from the first lexeme on by one lexeme each time.  A turn began further on than
the turn before, and all of them began behind the cursor. -/
structure Straight (cursor : Cursor) : Prop where
  moves : cursor.moves = (List.range cursor.position).map fun place => (place, place + 1)
  ordered : cursor.turns.Pairwise (· < ·)
  behind : ∀ turn ∈ cursor.turns, turn < cursor.position

theorem straight_start : Straight start where
  moves := rfl
  ordered := .nil
  behind := List.forall_mem_nil _

theorem Straight.onward (h : Straight cursor) : Straight cursor.onward where
  moves := by
    rw [Cursor.onward, h.moves, List.range_succ, List.map_append]
    rfl
  ordered := h.ordered
  behind turn hmem := Nat.lt_succ_of_lt (h.behind turn hmem)

/-- A turn that begins where the cursor is begins behind it after the next move. -/
theorem Straight.turning (h : Straight cursor) : Straight cursor.turning.onward where
  moves := h.onward.moves
  ordered := by
    refine List.pairwise_append.mpr ⟨h.ordered, List.pairwise_singleton _ _, ?_⟩
    intro turn hmem place hplace
    rw [List.mem_singleton.mp hplace]
    exact h.behind turn hmem
  behind turn hmem := by
    rcases List.mem_append.mp hmem with hearlier | hlast
    · exact h.onward.behind turn hearlier
    · rw [List.mem_singleton.mp hlast]
      exact Nat.lt_succ_self _

/-! ### While tokens are left -/

/-- The cursor stands in front of the last tokens, at the first of them or, if there are none, at
what stops them. -/
structure At (all : Tokens) (cursor : Cursor) (ts : List Token) : Prop extends Straight cursor where
  split : ∃ used, all.tokens = used ++ ts ∧ cursor.position = used.length

theorem at_start (all : Tokens) : At all start all.tokens := ⟨straight_start, [], rfl, rfl⟩

theorem length_lexemes (all : Tokens) : all.lexemes.length = all.tokens.length + 1 := by
  simp [Tokens.lexemes]

/-- Behind the cursor there are tokens only. -/
theorem At.lexemes (h : At all cursor ts) :
    ∃ used : List Token, cursor.position = used.length ∧
      all.lexemes = used.map (fun token => (.token token.kind, token.span)) ++
        Tokens.lexemes ⟨ts, all.stop⟩ := by
  obtain ⟨used, htokens, hposition⟩ := h.split
  exact ⟨used, hposition, by rw [← lexemes_append, ← htokens]⟩

/-- What the cursor finds at some distance is found there behind the tokens that it has passed. -/
theorem At.getElem? (h : At all cursor ts) (distance : Nat) :
    all.lexemes[cursor.position + distance]? =
      (Tokens.lexemes ⟨ts, all.stop⟩)[distance]? := by
  obtain ⟨used, hposition, hlexemes⟩ := h.lexemes
  rw [hlexemes, hposition, List.getElem?_append_right (by rw [List.length_map]; omega),
    List.length_map, Nat.add_sub_cancel_left]

theorem At.position_lt (h : At all cursor ts) :
    cursor.position + ts.length < all.lexemes.length := by
  obtain ⟨used, htokens, hposition⟩ := h.split
  rw [length_lexemes, htokens, List.length_append, hposition]
  exact Nat.lt_succ_self _

/-- The lexeme under the cursor is one of the text. -/
theorem At.shown (h : At all cursor ts) : ∃ found, (found, place all.stop ts) ∈ all.lexemes := by
  obtain ⟨used, -, hlexemes⟩ := h.lexemes
  obtain ⟨behind, hfront⟩ := lexemes_eq_front all.stop ts
  refine ⟨front all.stop ts, ?_⟩
  rw [hlexemes, hfront]
  exact List.mem_append_right _ List.mem_cons_self

/-! ### Runs and steps -/

/-- In front of the tokens the run gives the value, and the cursor is in front of the rest then. -/
def Yields (all : Tokens) (run : Run α) (ts : List Token) (value : α) (rest : List Token) : Prop :=
  ∀ cursor, At all cursor ts → ∃ after, run.run cursor = .ok value after ∧ At all after rest

/-- In front of the tokens the run is refused, at the place of some lexeme and with the cursor in
front of some of the tokens. -/
def Refuses (all : Tokens) (run : Run α) (ts : List Token) (refusal : Refusal) : Prop :=
  ∀ cursor, At all cursor ts → ∃ after rest, run.run cursor = .error (.refused refusal) after ∧
    At all after rest ∧ ∃ found, (found, refusal.span) ∈ all.lexemes

/-- In front of the tokens the run goes on as another one does in front of the rest. -/
def Leads (all : Tokens) (run : Run α) (ts : List Token) (later : Run α) (rest : List Token) :
    Prop :=
  ∀ cursor, At all cursor ts → ∃ after, run.run cursor = later.run after ∧ At all after rest

/-- In front of the tokens the run comes to what a step of the parser comes to. -/
structure Follows {P : List Token → Prop} (all : Tokens) (run : Run α) (ts : List Token)
    (step : Except Refusal (α × { rest : List Token // P rest })) : Prop where
  yields : ∀ value rest, Gives step value rest → Yields all run ts value rest
  refuses : ∀ refusal, step = .error refusal → Refuses all run ts refusal

theorem yields_pure (value : α) (ts : List Token) : Yields all (pure value) ts value ts :=
  fun cursor hat => ⟨cursor, rfl, hat⟩

theorem Leads.refl (run : Run α) (ts : List Token) : Leads all run ts run ts :=
  fun cursor hat => ⟨cursor, rfl, hat⟩

theorem Leads.trans {earlier between later : Run α} (h : Leads all earlier ts between mid)
    (hlater : Leads all between mid later rest) : Leads all earlier ts later rest := by
  intro cursor hat
  obtain ⟨middle, hbetween, hmid⟩ := h cursor hat
  obtain ⟨after, hafter, hrest⟩ := hlater middle hmid
  exact ⟨after, hbetween.trans hafter, hrest⟩

theorem Leads.yields {earlier later : Run α} (h : Leads all earlier ts later mid)
    (hlater : Yields all later mid value rest) : Yields all earlier ts value rest := by
  intro cursor hat
  obtain ⟨middle, hmiddle, hmid⟩ := h cursor hat
  obtain ⟨after, hafter, hrest⟩ := hlater middle hmid
  exact ⟨after, hmiddle.trans hafter, hrest⟩

theorem Leads.refuses {earlier later : Run α} (h : Leads all earlier ts later mid)
    (hlater : Refuses all later mid refusal) : Refuses all earlier ts refusal := by
  intro cursor hat
  obtain ⟨middle, hmiddle, hmid⟩ := h cursor hat
  obtain ⟨after, rest, hafter, hrest⟩ := hlater middle hmid
  exact ⟨after, rest, hmiddle.trans hafter, hrest⟩

theorem Yields.leads (h : Yields all run ts value mid) :
    Leads all (run >>= next) ts (next value) mid := by
  intro cursor hat
  obtain ⟨after, hrun, hmid⟩ := h cursor hat
  exact ⟨after, by rw [EStateM.run_bind, hrun], hmid⟩

theorem Yields.bind (h : Yields all run ts value mid)
    (hnext : Yields all (next value) mid result rest) : Yields all (run >>= next) ts result rest :=
  h.leads.yields hnext

theorem Refuses.bind (h : Refuses all run ts refusal) : Refuses all (run >>= next) ts refusal := by
  intro cursor hat
  obtain ⟨after, rest, hrun, hrest⟩ := h cursor hat
  exact ⟨after, rest, by rw [EStateM.run_bind, hrun], hrest⟩

/-- The lexeme under the cursor may be taken for one of the text. -/
theorem Refuses.of_shown
    (h : (∃ found, (found, place all.stop ts) ∈ all.lexemes) → Refuses all run ts refusal) :
    Refuses all run ts refusal :=
  fun cursor hat => h hat.shown cursor hat

/-! ### Looking and moving -/

theorem current_yields (ts : List Token) :
    Yields all (current all.lexemes) ts (front all.stop ts, place all.stop ts) ts := by
  intro cursor hat
  obtain ⟨behind, hfront⟩ := lexemes_eq_front all.stop ts
  have hhere : all.lexemes[cursor.position]? = some (front all.stop ts, place all.stop ts) := by
    have hget := hat.getElem? 0
    rw [hfront] at hget
    exact hget
  refine ⟨cursor, ?_, hat⟩
  rw [current, EStateM.run_bind, EStateM.run_get]
  simp only [hhere, EStateM.run_pure]

theorem ahead_yields (ts : List Token) (distance : Nat) :
    Yields all (ahead all.lexemes distance) ts
      ((Tokens.lexemes ⟨ts, all.stop⟩)[distance]?.map Prod.fst) ts := by
  intro cursor hat
  rw [← hat.getElem? distance]
  exact ⟨cursor, rfl, hat⟩

theorem At.onward {token : Token} (h : At all cursor (token :: ts)) : At all cursor.onward ts where
  toStraight := h.toStraight.onward
  split := by
    obtain ⟨used, htokens, hposition⟩ := h.split
    refine ⟨used ++ [token], by rw [htokens, List.append_assoc]; rfl, ?_⟩
    rw [List.length_append, ← hposition]
    rfl

theorem At.turning {token : Token} (h : At all cursor (token :: ts)) :
    At all cursor.turning.onward ts where
  toStraight := h.toStraight.turning
  split := h.onward.split

/-- Before a token the guard of the last lexeme does not hold the cursor back, whatever turns it has
begun. -/
theorem At.advance {token : Token} (h : At all cursor (token :: ts)) (turns : List Nat) :
    (Cursor.advance all.lexemes).run { cursor with turns := turns } =
      .ok () (Cursor.onward { cursor with turns := turns }) := by
  have hlt : cursor.position + 1 < all.lexemes.length := by
    have := h.position_lt
    rw [List.length_cons] at this
    omega
  rw [Cursor.advance, EStateM.run_modify]
  simp only [if_pos hlt]
  rfl

theorem advance_yields (token : Token) (ts : List Token) :
    Yields all (advance all.lexemes) (token :: ts) () ts :=
  fun cursor hat => ⟨cursor.onward, hat.advance cursor.turns, hat.onward⟩

theorem turn_yields (token : Token) (ts : List Token) :
    Yields all (turn all.lexemes) (token :: ts) () ts := by
  intro cursor hat
  refine ⟨cursor.turning.onward, ?_, hat.turning⟩
  rw [turn, EStateM.run_bind, EStateM.run_modify]
  exact hat.advance (cursor.turns ++ [cursor.position])

theorem sees_yields (kind : Token.Kind) (ts : List Token) :
    Yields all (sees all.lexemes kind) ts (decide (front all.stop ts = .token kind)) ts :=
  (current_yields ts).bind (yields_pure _ ts)

theorem sees_cons (kind : Token.Kind) (span : Text.Span) (ts : List Token) :
    Yields all (sees all.lexemes kind) (⟨kind, span⟩ :: ts) true (⟨kind, span⟩ :: ts) := by
  have hsees : Yields all _ (⟨kind, span⟩ :: ts) _ _ := sees_yields kind (⟨kind, span⟩ :: ts)
  rwa [front_cons, decide_eq_true rfl] at hsees

theorem sees_free {kind : Token.Kind} (h : Free [kind] ts) :
    Yields all (sees all.lexemes kind) ts false ts := by
  have hfront := (free_iff_front all.stop).mp h kind List.mem_cons_self
  have hsees : Yields all _ ts _ _ := sees_yields kind ts
  rwa [decide_eq_false hfront] at hsees

theorem refuses_throw (h : ∃ found, (found, refusal.span) ∈ all.lexemes) (ts : List Token) :
    Refuses all (throw (.refused refusal) : Run α) ts refusal :=
  fun cursor hat => ⟨cursor, ts, rfl, hat, h⟩

/-- What is refused is refused where the cursor is. -/
theorem refuse_refuses (expected : Expectation) (ts : List Token) :
    Refuses all (refuse all.lexemes expected : Run α) ts
      ⟨.unexpected expected (front all.stop ts), place all.stop ts⟩ :=
  .of_shown fun hshown => (current_yields ts).leads.refuses (refuses_throw hshown ts)

/-- A choice by the token under the cursor. -/
theorem choose_cons (kind : Token.Kind) (span : Text.Span) (ts : List Token) (yes no : Run α) :
    Leads all (do if ← sees all.lexemes kind then yes else no) (⟨kind, span⟩ :: ts) yes
      (⟨kind, span⟩ :: ts) :=
  (sees_cons kind span ts).leads

theorem choose_free {kind : Token.Kind} (h : Free [kind] ts) (yes no : Run α) :
    Leads all (do if ← sees all.lexemes kind then yes else no) ts no ts :=
  (sees_free h).leads

theorem advance_leads (token : Token) (ts : List Token) (later : Run α) :
    Leads all (do advance all.lexemes; later) (token :: ts) later ts :=
  (advance_yields token ts).leads

theorem turn_leads (token : Token) (ts : List Token) (later : Run α) :
    Leads all (do turn all.lexemes; later) (token :: ts) later ts :=
  (turn_yields token ts).leads

theorem symbol_yields (kind : Token.Kind) (expected : Expectation) (span : Text.Span)
    (ts : List Token) : Yields all (symbol all.lexemes kind expected) (⟨kind, span⟩ :: ts) () ts :=
  (choose_cons kind span ts _ _).yields (advance_yields _ ts)

theorem symbol_follows (kind : Token.Kind) (expected : Expectation) (ts : List Token) :
    Follows all (symbol all.lexemes kind expected) ts
      (Parser.symbol all.stop kind expected ts) where
  yields _ rest h := by
    obtain ⟨⟨_, span⟩, rfl, rfl⟩ := Parser.symbol_ok h
    exact symbol_yields _ expected span rest
  refuses refusal h := by
    obtain ⟨hfree, rfl⟩ := Parser.symbol_error_iff.mp h
    exact (choose_free hfree _ _).refuses (refuse_refuses expected ts)

theorem name?_token (kind : Token.Kind) : (Lexeme.token kind).name? = kind.name? := rfl

theorem name?_of_unnamed {lexeme : Lexeme} (h : Unnamed lexeme) : lexeme.name? = none := by
  cases lexeme with
  | token kind => exact h kind rfl
  | fault why => rfl
  | finish => rfl

theorem name_follows (expected : Expectation) (ts : List Token) :
    Follows all (name all.lexemes expected) ts (Parser.name all.stop expected ts) where
  yields text rest h := by
    obtain ⟨token, rfl, hname⟩ := Parser.name_ok h
    refine (current_yields _).bind ?_
    rw [front_cons, name?_token, hname]
    exact (advance_yields token rest).bind (yields_pure text rest)
  refuses refusal h := by
    obtain ⟨hunnamed, rfl⟩ := Parser.name_error_iff.mp h
    refine (current_yields ts).leads.refuses ?_
    rw [name?_of_unnamed hunnamed]
    exact refuse_refuses expected ts

/-- A name is taken. -/
theorem name_yields (expected : Expectation) {token : Token} {text : String}
    (h : token.kind.name? = some text) (ts : List Token) :
    Yields all (name all.lexemes expected) (token :: ts) text ts :=
  (name_follows expected _).yields text ts (Parser.name_of h)

end GatewayQuery.Select.Cursor
