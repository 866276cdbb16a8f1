/-
Where the parser gets stuck.

A step that fails has taken some tokens and does not want the one behind them.  Two things are to be
known of that place.  It is not too late: what was taken begins something that the grammar spells,
so one could have gone on from there.  And it is not too early: whatever stands behind the lexeme
that was refused, the step fails on it in the same way.  `Stuck` says both, and it travels outwards
through the steps: where an inner step is stuck, the outer one is stuck at the same lexeme, with
what it had taken before in front.

A spread is the one step that looks back.  Whether its target is an embedding is known only when
all of it was read, and then it is the three dots that are refused.  So the first half is promised
only where no spread was begun.
-/
import GatewayQuery.Proofs.Select.Refusals

namespace GatewayQuery.Select.Parser

open Token (Kind)
open Grammar

/-- The kinds begin something that the grammar spells. -/
def Starts (G : List Kind → Prop) (kinds : List Kind) : Prop :=
  ∃ more, AllSpellable more ∧ G (kinds ++ more)

/-- A step that fails is stuck at one of the lexemes. -/
def Stuck {α : List Token → Type} (G : List Kind → Prop)
    (step : Stop → (ts : List Token) → Except Refusal (α ts)) (stop : Stop) (ts : List Token)
    (refusal : Refusal) : Prop :=
  ∃ used rest, ts = used ++ rest ∧
    (.ellipsis ∉ used.map Token.kind →
      refusal.span = place stop rest ∧ Starts G (used.map Token.kind)) ∧
    ∀ {other ts' rest'}, Agree stop other ts rest ts' rest' →
      ∃ span, step other ts' = .error ⟨refusal.cause, span⟩

section Stuck

variable {α β : List Token → Type} {G₁ G₂ : List Kind → Prop}
  {step₁ : Stop → (ts : List Token) → Except Refusal (α ts)}
  {step₂ : Stop → (ts : List Token) → Except Refusal (β ts)}
  {stop : Stop} {ts mid : List Token} {refusal : Refusal}

theorem Stuck.mono (h : Stuck G₁ step₁ stop ts refusal) (hG : ∀ kinds, G₁ kinds → G₂ kinds) :
    Stuck G₂ step₁ stop ts refusal := by
  obtain ⟨used, rest, hts, hplace, hfails⟩ := h
  refine ⟨used, rest, hts, fun hspread => ?_, hfails⟩
  obtain ⟨hspan, more, hspell, hmore⟩ := hplace hspread
  exact ⟨hspan, more, hspell, hG _ hmore⟩

/-- Where an inner step is stuck the outer one is stuck: what was taken before stands in front, and
`post` completes what the outer step needs once the inner part is complete. -/
theorem Stuck.lift (h : Stuck G₁ step₁ stop mid refusal) (pre : List Token) (post : List Kind)
    (hts : ts = pre ++ mid) (hpost : AllSpellable post)
    (hstarts : .ellipsis ∉ pre.map Token.kind → ∀ kinds, G₁ kinds →
      G₂ (pre.map Token.kind ++ (kinds ++ post)))
    (hfails : ∀ {other ts' mid' error}, Agree stop other ts mid ts' mid' →
      step₁ other mid' = .error error → step₂ other ts' = .error error) :
    Stuck G₂ step₂ stop ts refusal := by
  obtain ⟨used, rest, rfl, hplace, hinner⟩ := h
  subst hts
  refine ⟨pre ++ used, rest, (List.append_assoc ..).symm, fun hspread => ?_, fun hagree => ?_⟩
  · simp only [List.map_append, List.mem_append, not_or] at hspread ⊢
    obtain ⟨hspan, more, hspell, hmore⟩ := hplace hspread.2
    refine ⟨hspan, more ++ post, allSpellable_append.mpr ⟨hspell, hpost⟩, ?_⟩
    have hall := hstarts hspread.1 _ hmore
    simpa only [List.append_assoc] using hall
  · obtain ⟨mid', hagree₁, hagree₂⟩ :=
      hagree.split (List.suffix_append pre _) (List.suffix_append used rest)
    obtain ⟨span, herror⟩ := hinner hagree₂
    exact ⟨span, hfails hagree₁ herror⟩

end Stuck

variable {stop : Stop} {ts : List Token} {refusal : Refusal}

/-! ### Single tokens -/

theorem spellable_word : Kind.Spellable (.bare "x") :=
  ⟨by decide, List.all_eq_true.mp (by decide)⟩

theorem name_stuck {expected : Expectation} (h : name stop expected ts = .error refusal) :
    Stuck (fun kinds => ∃ kind text, kinds = [kind] ∧ kind.name? = some text)
      (fun stop => name stop expected) stop ts refusal := by
  obtain ⟨hunnamed, rfl⟩ := name_error_iff.mp h
  refine ⟨[], ts, rfl, fun _ => ⟨rfl, [.bare "x"], by simpa using spellable_word, _, "x", rfl,
    rfl⟩, fun {other ts' rest'} hagree => ?_⟩
  obtain ⟨rfl, hfront⟩ := hagree.self
  rw [← hfront] at hunnamed ⊢
  exact ⟨place other ts', name_error_iff.mpr ⟨hunnamed, rfl⟩⟩

theorem symbol_stuck {kind : Kind} {expected : Expectation}
    (h : symbol stop kind expected ts = .error refusal) (hspell : kind.Spellable) :
    Stuck (fun kinds => kinds = [kind]) (fun stop => symbol stop kind expected) stop ts
      refusal := by
  obtain ⟨hfree, rfl⟩ := symbol_error_iff.mp h
  refine ⟨[], ts, rfl, fun _ => ⟨rfl, [kind], by simpa using hspell, rfl⟩,
    fun {other ts' rest'} hagree => ?_⟩
  have hfree' := hagree.free hfree
  obtain ⟨rfl, hfront⟩ := hagree.self
  rw [← hfront]
  exact ⟨place other ts', symbol_error_iff.mpr ⟨hfree', rfl⟩⟩

theorem aggregateName_stuck (h : aggregateName stop ts = .error refusal) :
    Stuck (fun kinds => ∃ kind function, kinds = [kind] ∧
      kind.name? = some (AggregateFunction.name function)) aggregateName stop ts refusal := by
  have hstarts : Starts (fun kinds => ∃ kind function, kinds = [kind] ∧
      kind.name? = some (AggregateFunction.name function)) [] :=
    ⟨[.bare "count"], by simp [Kind.Spellable]; decide, .bare "count", .count, rfl, rfl⟩
  rcases aggregateName_error_iff.mp h with
    ⟨hunnamed, rfl⟩ | ⟨kind, text, hkind, hname, hfunction, rfl⟩
  · refine ⟨[], ts, rfl, fun _ => ⟨rfl, hstarts⟩, fun {other ts' rest'} hagree => ?_⟩
    obtain ⟨rfl, hfront⟩ := hagree.self
    rw [← hfront] at hunnamed ⊢
    exact ⟨place other ts', aggregateName_error_iff.mpr (.inl ⟨hunnamed, rfl⟩)⟩
  · refine ⟨[], ts, rfl, fun _ => ⟨rfl, hstarts⟩, fun {other ts' rest'} hagree => ?_⟩
    obtain ⟨rfl, hfront⟩ := hagree.self
    rw [← hfront] at hkind
    exact ⟨place other ts',
      aggregateName_error_iff.mpr (.inr ⟨kind, text, hkind, hname, hfunction, rfl⟩)⟩

/-! ### Parts without nodes -/

theorem castPart_stuck (h : castPart stop ts = .error refusal) :
    Stuck (fun kinds => ∃ cast, Cast kinds cast) castPart stop ts refusal := by
  obtain ⟨span, after, hts, hname⟩ := castPart_error_iff.mp h
  refine (name_stuck hname).lift [⟨.doubleColon, span⟩] [] hts allSpellable_nil ?_ ?_
  · rintro - _ ⟨kind, type, rfl, htype⟩
    exact ⟨some type, .present htype⟩
  · intro other ts' mid' error hagree herror
    subst hts
    obtain ⟨span', rfl, -⟩ := hagree.one
    exact castPart_error_iff.mpr ⟨span', _, rfl, herror⟩

theorem pathPart_stuck {ts : List Token} (h : pathPart stop ts = .error refusal) :
    Stuck (fun kinds => ∃ path, Steps kinds path) pathPart stop ts refusal := by
  rcases pathPart_error_iff.mp h with ⟨span, after, hts, hname⟩ |
    ⟨span, key, after, more, hts, hname, hmore⟩ | ⟨span, after, hts, hname⟩
  · refine (name_stuck hname).lift [⟨.arrow, span⟩] [] hts allSpellable_nil ?_ ?_
    · rintro - _ ⟨kind, key, rfl, hkey⟩
      exact ⟨_, .json hkey .done⟩
    · intro other ts' mid' error hagree herror
      subst hts
      obtain ⟨span', rfl, -⟩ := hagree.one
      exact pathPart_error_iff.mpr (.inl ⟨span', _, rfl, herror⟩)
  · obtain ⟨token, rfl, hkey⟩ := name_ok hname
    have hshorter : more.length < ts.length := by
      rw [hts, List.length_cons, List.length_cons]
      omega
    refine (pathPart_stuck hmore).lift [⟨.arrow, span⟩, token] [] hts allSpellable_nil ?_ ?_
    · rintro - kinds ⟨path, hpath⟩
      exact ⟨_, .json hkey (by simpa using hpath)⟩
    · intro other ts' mid' error hagree herror
      subst hts
      obtain ⟨span', _, rfl, hagree₁⟩ := hagree.cons (List.suffix_cons token more)
      obtain ⟨_, rfl, -⟩ := hagree₁.one
      exact pathPart_error_iff.mpr
        (.inr (.inl ⟨span', key, _, _, rfl, name_of hkey, herror⟩))
  · refine (name_stuck hname).lift [⟨.doubleArrow, span⟩] [] hts allSpellable_nil ?_ ?_
    · rintro - _ ⟨kind, key, rfl, hkey⟩
      exact ⟨_, .text hkey⟩
    · intro other ts' mid' error hagree herror
      subst hts
      obtain ⟨span', rfl, -⟩ := hagree.one
      exact pathPart_error_iff.mpr (.inr (.inr ⟨span', _, rfl, herror⟩))
termination_by ts.length

theorem aggregatePart_stuck (h : aggregatePart stop ts = .error refusal) :
    Stuck (fun kinds => ∃ aggregate, Summary kinds aggregate) aggregatePart stop ts refusal := by
  obtain ⟨span, after, hts, hfunction | ⟨function, more, hfunction, herror⟩⟩ :=
    aggregatePart_error_iff.mp h
  · refine (aggregateName_stuck hfunction).lift [⟨.dot, span⟩] [.leftParen, .rightParen] hts
      (by simp [Kind.Spellable]) ?_ ?_
    · rintro - _ ⟨kind, function, rfl, hname⟩
      exact ⟨_, .present hname .absent⟩
    · intro other ts' mid' error hagree herror
      subst hts
      obtain ⟨span', rfl, -⟩ := hagree.one
      exact aggregatePart_error_iff.mpr ⟨span', _, rfl, .inl herror⟩
  obtain ⟨token, rfl, hname⟩ := aggregateName_ok hfunction
  rcases herror with hopened | ⟨opened, inner, rfl, hclosed | ⟨closed, rest, rfl, hcast⟩⟩
  · refine (symbol_stuck hopened trivial).lift [⟨.dot, span⟩, token] [.rightParen] hts
      (by simp [Kind.Spellable]) ?_ ?_
    · rintro - _ rfl
      exact ⟨_, .present hname .absent⟩
    · intro other ts' mid' error hagree herror
      subst hts
      obtain ⟨span', _, rfl, hagree₁⟩ := hagree.cons (List.suffix_cons token more)
      obtain ⟨_, rfl, -⟩ := hagree₁.one
      exact aggregatePart_error_iff.mpr
        ⟨span', _, rfl, .inr ⟨function, _, aggregateName_of hname, .inl herror⟩⟩
  · have hinner := List.suffix_cons ⟨.leftParen, opened⟩ inner
    refine (symbol_stuck hclosed trivial).lift [⟨.dot, span⟩, token, ⟨.leftParen, opened⟩] [] hts
      allSpellable_nil ?_ ?_
    · rintro - _ rfl
      exact ⟨_, .present hname .absent⟩
    · intro other ts' mid' error hagree herror
      subst hts
      obtain ⟨span', _, rfl, hagree₁⟩ := hagree.cons (hinner.trans (List.suffix_cons token _))
      obtain ⟨_, _, rfl, hagree₂⟩ := hagree₁.cons hinner
      obtain ⟨opened', rfl, -⟩ := hagree₂.one
      exact aggregatePart_error_iff.mpr ⟨span', _, rfl, .inr ⟨function, _, aggregateName_of hname,
        .inr ⟨opened', _, rfl, .inl herror⟩⟩⟩
  · have hrest := List.suffix_cons ⟨.rightParen, closed⟩ rest
    have hinner := hrest.trans (List.suffix_cons ⟨.leftParen, opened⟩ _)
    refine (castPart_stuck hcast).lift
      [⟨.dot, span⟩, token, ⟨.leftParen, opened⟩, ⟨.rightParen, closed⟩] [] hts
      allSpellable_nil ?_ ?_
    · rintro - kinds ⟨cast, htype⟩
      exact ⟨_, .present hname (by simpa using htype)⟩
    · intro other ts' mid' error hagree herror
      subst hts
      obtain ⟨span', _, rfl, hagree₁⟩ := hagree.cons (hinner.trans (List.suffix_cons token _))
      obtain ⟨_, _, rfl, hagree₂⟩ := hagree₁.cons hinner
      obtain ⟨opened', _, rfl, hagree₃⟩ := hagree₂.cons hrest
      obtain ⟨closed', rfl, -⟩ := hagree₃.one
      exact aggregatePart_error_iff.mpr ⟨span', _, rfl, .inr ⟨function, _, aggregateName_of hname,
        .inr ⟨opened', _, rfl, .inr ⟨closed', _, rfl, herror⟩⟩⟩⟩

/-- What may stand behind the name of a column. -/
def ColumnTail (kinds : List Kind) : Prop :=
  ∃ steps cast summary path type aggregate, kinds = steps ++ (cast ++ summary) ∧
    Steps steps path ∧ Cast cast type ∧ Summary summary aggregate

theorem columnPart_stuck {key : Option String} {column : String}
    (h : columnPart stop key column ts = .error refusal) :
    Stuck ColumnTail (fun stop => columnPart stop key column) stop ts refusal := by
  rcases columnPart_error_iff.mp h with hpath |
    ⟨path, afterPath, hpath, hcast | ⟨type, afterCast, hcast, haggregate⟩⟩
  · refine (pathPart_stuck hpath).lift [] [] rfl allSpellable_nil ?_ ?_
    · rintro - kinds ⟨path, hsteps⟩
      exact ⟨kinds, [], [], path, none, none, by simp, hsteps, .absent, .absent⟩
    · intro other ts' mid' error hagree herror
      obtain ⟨rfl, -⟩ := hagree.self
      exact columnPart_error_iff.mpr (.inl herror)
  · obtain ⟨steps, hts, hsteps⟩ := pathPart_ok hpath
    refine (castPart_stuck hcast).lift steps [] hts allSpellable_nil ?_ ?_
    · rintro - kinds ⟨type, htype⟩
      exact ⟨_, kinds, [], path, type, none, by simp, hsteps, htype, .absent⟩
    · intro other ts' mid' error hagree herror
      exact columnPart_error_iff.mpr
        (.inr ⟨path, mid', pathPart_again hpath hagree, .inl herror⟩)
  · obtain ⟨steps, hts, hsteps⟩ := pathPart_ok hpath
    obtain ⟨cast, hafterPath, htype⟩ := castPart_ok hcast
    refine (aggregatePart_stuck haggregate).lift (steps ++ cast) []
      (by rw [hts, hafterPath, List.append_assoc]) allSpellable_nil ?_ ?_
    · rintro - kinds ⟨aggregate, hsummary⟩
      exact ⟨_, _, kinds, path, type, aggregate, by simp, hsteps, htype, hsummary⟩
    · intro other ts' mid' error hagree herror
      obtain ⟨afterPath', hagree₁, hagree₂⟩ :=
        hagree.split (pathPart_ok hpath).suffix (castPart_ok hcast).suffix
      exact columnPart_error_iff.mpr (.inr ⟨path, afterPath', pathPart_again hpath hagree₁,
        .inr ⟨type, mid', castPart_again hcast hagree₂, herror⟩⟩)

/-! ### Words after exclamation marks -/

/-- The word after an exclamation mark is refused, or it is taken and a later one is refused. -/
theorem hintPart_stuck_cases {hints : Hints} (h : hintPart stop hints ts = .error refusal) :
    Stuck (fun kinds => ∃ innerJoin, Joins kinds innerJoin) (fun stop => hintPart stop hints) stop
      ts refusal ∨
    ∃ span token more word next, ts = ⟨.bang, span⟩ :: token :: more ∧
      token.kind.name? = some word ∧ hints.add token.kind word = some next ∧
      hintPart stop next more = .error refusal := by
  have hstarts : Starts (fun kinds => ∃ innerJoin, Joins kinds innerJoin) [.bang] :=
    ⟨[.bare "inner"], by simp [Kind.Spellable]; decide, true, .inner .done⟩
  obtain ⟨span, after, rfl, ⟨hunnamed, rfl⟩ | ⟨token, more, word, rfl, hname, ⟨hadd, rfl⟩ |
    ⟨next, hadd, hnext⟩⟩⟩ := hintPart_error_iff.mp h
  · refine .inl ⟨[⟨.bang, span⟩], after, rfl, fun _ => ⟨rfl, hstarts⟩,
      fun {other ts' rest'} hagree => ?_⟩
    obtain ⟨span', rfl, hfront⟩ := hagree.one
    rw [← hfront] at hunnamed ⊢
    exact ⟨_, hintPart_error_iff.mpr ⟨span', rest', rfl, .inl ⟨hunnamed, rfl⟩⟩⟩
  · refine .inl ⟨[⟨.bang, span⟩], token :: more, rfl, fun _ => ⟨rfl, hstarts⟩,
      fun {other ts' rest'} hagree => ?_⟩
    obtain ⟨span', rfl, hfront⟩ := hagree.one
    obtain ⟨place', more', rfl⟩ := front_eq_token hfront
    exact ⟨place', hintPart_error_iff.mpr ⟨span', _, rfl,
      .inr ⟨⟨token.kind, place'⟩, more', word, rfl, hname, .inl ⟨hadd, rfl⟩⟩⟩⟩
  · exact .inr ⟨span, token, more, word, next, rfl, hname, hadd, hnext⟩

/-- Where a later word is refused the words before it stand in front. -/
theorem hintPart_stuck_later {G₁ G₂ : List Kind → Prop} {hints next : Hints} {span : Text.Span}
    {token : Token} {more : List Token} {word : String} (hname : token.kind.name? = some word)
    (hadd : hints.add token.kind word = some next)
    (h : Stuck G₁ (fun stop => hintPart stop next) stop more refusal)
    (hG : ∀ kinds, G₁ kinds → G₂ (.bang :: token.kind :: kinds)) :
    Stuck G₂ (fun stop => hintPart stop hints) stop (⟨.bang, span⟩ :: token :: more) refusal := by
  refine h.lift [⟨.bang, span⟩, token] [] rfl allSpellable_nil ?_ ?_
  · rintro - kinds hkinds
    simpa using hG kinds hkinds
  · intro other ts' mid' error hagree herror
    obtain ⟨span', _, rfl, hagree₁⟩ := hagree.cons (List.suffix_cons token more)
    obtain ⟨place', rfl, -⟩ := hagree₁.one
    exact hintPart_error_iff.mpr ⟨span', _, rfl,
      .inr ⟨⟨token.kind, place'⟩, _, word, rfl, hname, .inr ⟨next, hadd, herror⟩⟩⟩

theorem hintPart_joins_stuck {hints : Hints} {ts : List Token}
    (hdone : hints.joined = true ∨ hints.hint ≠ Option.none)
    (h : hintPart stop hints ts = .error refusal) :
    Stuck (fun kinds => ∃ innerJoin, Joins kinds innerJoin) (fun stop => hintPart stop hints) stop
      ts refusal := by
  rcases hintPart_stuck_cases h with hstuck |
    ⟨span, token, more, word, next, rfl, hname, hadd, hnext⟩
  · exact hstuck
  · rcases Hints.add_cases hadd with ⟨hkind, rfl⟩ | ⟨hkind, rfl⟩ | ⟨-, -, hhint, hjoined, -⟩
    · refine hintPart_stuck_later hname hadd (hintPart_joins_stuck (.inl rfl) hnext) ?_
      rintro kinds ⟨innerJoin, hjoins⟩
      rw [hkind]
      exact ⟨true, .inner hjoins⟩
    · refine hintPart_stuck_later hname hadd (hintPart_joins_stuck (.inl rfl) hnext) ?_
      rintro kinds ⟨innerJoin, hjoins⟩
      rw [hkind]
      exact ⟨innerJoin, .left hjoins⟩
    · simp [hhint, hjoined] at hdone
termination_by ts.length

theorem hintPart_stuck (h : hintPart stop .none ts = .error refusal) :
    Stuck (fun kinds => ∃ hint innerJoin, Grammar.Hints kinds hint innerJoin)
      (fun stop => hintPart stop .none) stop ts refusal := by
  rcases hintPart_stuck_cases h with hstuck |
    ⟨span, token, more, word, next, rfl, hname, hadd, hnext⟩
  · refine hstuck.mono ?_
    rintro kinds ⟨innerJoin, hjoins⟩
    exact ⟨none, innerJoin, .absent hjoins⟩
  have hdone : next.joined = true ∨ next.hint ≠ Option.none := by
    rcases Hints.add_cases hadd with ⟨-, rfl⟩ | ⟨-, rfl⟩ | ⟨-, -, -, -, rfl⟩ <;> simp
  refine hintPart_stuck_later hname hadd (hintPart_joins_stuck hdone hnext) ?_
  rintro kinds ⟨innerJoin, hjoins⟩
  rcases Hints.add_cases hadd with ⟨hkind, -⟩ | ⟨hkind, -⟩ | ⟨hinner, hleft, -, -, -⟩
  · rw [hkind]
    exact ⟨none, true, .absent (.inner hjoins)⟩
  · rw [hkind]
    exact ⟨none, innerJoin, .absent (.left hjoins)⟩
  · exact ⟨some word, innerJoin, .present hname hinner hleft hjoins⟩

/-! ### Items, nodes and lists of nodes -/

theorem countPart_of_unnamed (h : Unnamed (front stop ts)) : countPart ts = none := by
  refine countPart_eq_none fun word opened closed more hts => ?_
  subst hts
  cases h (.bare "count") rfl

/-- An embedding can always be closed: with no hint and no nodes `count` has become the count of
the rows. -/
theorem item_closes {key hints below : List Kind} {name : Kind} {label hint : Option String}
    {relation : String} {innerJoin : Bool} {nodes : List Node} (hkey : Key key label)
    (hname : name.name? = some relation) (hhints : Grammar.Hints hints hint innerJoin)
    (hchildren : Children below nodes) :
    ∃ field children,
      Item (key ++ name :: (hints ++ .leftParen :: (below ++ [.rightParen]))) field children := by
  by_cases hcount : name = .bare "count" ∧ hints = [] ∧ below = []
  · obtain ⟨rfl, rfl, rfl⟩ := hcount
    exact ⟨_, _, .rowCount hkey .absent⟩
  · exact ⟨_, _, .embedding hkey hname hhints hchildren hcount⟩

theorem item_stuck_count {start : Rest (keyPart ts).2.val}
    (hcount : countPart (keyPart ts).2.val = some start)
    (hcast : castPart stop start.val = .error refusal) :
    Stuck (fun kinds => ∃ field children, Item kinds field children) item stop ts refusal := by
  obtain ⟨key, hts, hkey⟩ := keyPart_ok ts
  obtain ⟨word, opened, closed, hstart⟩ := countPart_some hcount
  refine (castPart_stuck hcast).lift
    (key ++ [⟨.bare "count", word⟩, ⟨.leftParen, opened⟩, ⟨.rightParen, closed⟩]) []
    (by rw [List.append_assoc]; exact hts.trans (congrArg (key ++ ·) hstart)) allSpellable_nil ?_ ?_
  · rintro - kinds ⟨type, htype⟩
    simp only [List.map_append, List.map_cons, List.map_nil, List.append_assoc, List.cons_append,
      List.nil_append, List.append_nil]
    exact ⟨_, _, .rowCount hkey htype⟩
  · intro other ts' mid' error hagree herror
    obtain ⟨-, left, hcount', rfl⟩ := item_count_again hcount hagree
    exact item_error_iff.mpr (.inl ⟨left, hcount', herror⟩)

theorem item_stuck_name (hname : name stop .fieldName (keyPart ts).2.val = .error refusal) :
    Stuck (fun kinds => ∃ field children, Item kinds field children) item stop ts refusal := by
  obtain ⟨key, hts, hkey⟩ := keyPart_ok ts
  refine (name_stuck hname).lift key [] hts allSpellable_nil ?_ ?_
  · rintro - _ ⟨kind, text, rfl, htext⟩
    exact ⟨_, _, .column hkey htext .done .absent .absent⟩
  · intro other ts' mid' error hagree herror
    obtain ⟨-, hstart⟩ := keyPart_again_of_unnamed (name_error_iff.mp hname).1 hagree
    have hunnamed := (name_error_iff.mp herror).1
    refine item_error_iff.mpr (.inr ⟨?_, .inl ?_⟩)
    · rw [hstart]
      exact countPart_of_unnamed hunnamed
    · rw [hstart]
      exact herror

section Named

variable {after : List Token} {text : String}
  (hname : Gives (name stop .fieldName (keyPart ts).2.val) text after)
include hname

theorem item_stuck_hints (hhints : hintPart stop .none after = .error refusal) :
    Stuck (fun kinds => ∃ field children, Item kinds field children) item stop ts refusal := by
  obtain ⟨key, hts, hkey⟩ := keyPart_ok ts
  obtain ⟨token, hstart, htext⟩ := name_ok hname
  rw [hstart] at hts
  refine (hintPart_stuck hhints).lift (key ++ [token]) [.leftParen, .rightParen]
    (hts.trans (by simp)) (by simp [Kind.Spellable]) ?_ ?_
  · rintro - kinds ⟨hint, innerJoin, hmarks⟩
    simpa using item_closes hkey htext hmarks .absent
  · intro other ts' mid' error hagree herror
    obtain ⟨-, hname', _, _, -, hstart'⟩ := item_name_again hname hagree
    refine item_error_iff.mpr (.inr ⟨?_, .inr ⟨text, mid', hname', .inl herror⟩⟩)
    obtain ⟨span, _, rfl, -⟩ := hintPart_error_iff.mp herror
    rw [hstart']
    exact countPart_of_free (by simp)

variable {hints : Hints}

theorem item_stuck_children {span : Text.Span} {inner : List Token}
    (hcount : countPart (keyPart ts).2.val = none)
    (hhints : Gives (hintPart stop .none after) hints (⟨.leftParen, span⟩ :: inner))
    (hchildren : Stuck (fun kinds => ∃ below nodes, kinds = below ++ [.rightParen] ∧
      Children below nodes) childList stop inner refusal) :
    Stuck (fun kinds => ∃ field children, Item kinds field children) item stop ts refusal := by
  obtain ⟨key, hts, hkey⟩ := keyPart_ok ts
  obtain ⟨token, hstart, htext⟩ := name_ok hname
  obtain ⟨marks, rfl, hmarks, -⟩ := hintPart_ok hhints
  rw [hstart] at hts
  refine hchildren.lift (key ++ token :: (marks ++ [⟨.leftParen, span⟩])) []
    (hts.trans (by simp)) allSpellable_nil ?_ ?_
  · rintro - _ ⟨below, nodes, rfl, hbelow⟩
    simpa using item_closes hkey htext hmarks hbelow
  · intro other ts' mid' error hagree herror
    obtain ⟨after', span', -, hcount', hname', hhints'⟩ :=
      item_open_again hcount hname hhints hagree
    exact item_error_iff.mpr (.inr ⟨hcount', .inr ⟨text, after', hname', .inr ⟨hints, _, hhints',
      .inl ⟨span', mid', rfl, herror⟩⟩⟩⟩)

theorem item_stuck_marked {more : List Token}
    (hhints : Gives (hintPart stop .none after) hints more) (hfree : Free [.leftParen] more)
    (hmarked : hints.marked = true)
    (hrefusal : refusal = ⟨.unexpected .embedding (front stop more), place stop more⟩) :
    Stuck (fun kinds => ∃ field children, Item kinds field children) item stop ts refusal := by
  obtain ⟨key, hts, hkey⟩ := keyPart_ok ts
  obtain ⟨token, hstart, htext⟩ := name_ok hname
  obtain ⟨marks, hafter, hmarks, -⟩ := hintPart_ok hhints
  rw [hstart, hafter] at hts
  subst hrefusal
  refine ⟨key ++ token :: marks, more, hts.trans (by simp), fun _ => ⟨rfl,
    [.leftParen, .rightParen], by simp [Kind.Spellable], ?_⟩, fun {other ts' rest'} hagree => ?_⟩
  · simpa using item_closes hkey htext hmarks .absent
  · obtain ⟨after', hagree₁, hagree₂⟩ :=
      hagree.split (item_name_suffix hname) (hintPart_suffix hhints)
    obtain ⟨-, hname', _, _, -, hstart'⟩ := item_name_again hname hagree₁
    have hhints' := hintPart_again hhints hagree₂
    rw [← hagree.front_eq]
    refine ⟨_, item_error_iff.mpr (.inr ⟨?_, .inr ⟨text, after', hname', .inr ⟨hints, rest',
      hhints', .inr ⟨hagree.free hfree, .inl ⟨hmarked, rfl⟩⟩⟩⟩⟩)⟩
    rw [hstart']
    exact countPart_of_free (hintPart_unopened hhints' (hagree.free hfree))

theorem item_stuck_column {more : List Token}
    (hhints : Gives (hintPart stop .none after) hints more) (hfree : Free [.leftParen] more)
    (hmarked : hints.marked = false)
    (hcolumn : columnPart stop (keyPart ts).1 text more = .error refusal) :
    Stuck (fun kinds => ∃ field children, Item kinds field children) item stop ts refusal := by
  obtain ⟨key, hts, hkey⟩ := keyPart_ok ts
  obtain ⟨token, hstart, htext⟩ := name_ok hname
  obtain ⟨marks, rfl, -, hunmarked⟩ := hintPart_ok hhints
  obtain rfl := hunmarked hmarked
  rw [hstart] at hts
  refine (columnPart_stuck hcolumn).lift (key ++ [token]) [] (hts.trans (by simp))
    allSpellable_nil ?_ ?_
  · rintro - _ ⟨steps, cast, summary, path, type, aggregate, rfl, hsteps, hcast, hsummary⟩
    simp only [List.map_append, List.map_cons, List.map_nil, List.append_assoc, List.cons_append,
      List.nil_append, List.append_nil]
    exact ⟨_, _, .column hkey htext hsteps hcast hsummary⟩
  · intro other ts' mid' error hagree herror
    obtain ⟨hkey', hname', _, _, -, hstart'⟩ := item_name_again hname hagree
    rw [← hkey'] at herror
    refine item_error_iff.mpr (.inr ⟨?_, .inr ⟨text, mid', hname', .inr ⟨hints, mid',
      hintPart_again hhints hagree.tails, .inr ⟨hagree.free hfree, .inr ⟨hmarked, herror⟩⟩⟩⟩⟩)
    rw [hstart']
    exact countPart_of_free (hagree.free hfree)

end Named

mutual

theorem item_stuck {ts : List Token} (h : item stop ts = .error refusal) :
    Stuck (fun kinds => ∃ field children, Item kinds field children) item stop ts refusal := by
  rcases item_error_iff.mp h with ⟨start, hcount, hcast⟩ | ⟨hcount, hname | ⟨text, after, hname,
    hhints | ⟨hints, more, hhints, ⟨span, inner, rfl, hchildren⟩ | ⟨hfree, ⟨hmarked, hrefusal⟩ |
    ⟨hmarked, hcolumn⟩⟩⟩⟩⟩
  · exact item_stuck_count hcount hcast
  · exact item_stuck_name hname
  · exact item_stuck_hints hname hhints
  · have hshorter := item_open_shorter hname hhints
    exact item_stuck_children hname hcount hhints (childList_stuck hchildren)
  · exact item_stuck_marked hname hhints hfree hmarked hrefusal
  · exact item_stuck_column hname hhints hfree hmarked hcolumn
termination_by (ts.length, 0)

theorem childList_stuck {ts : List Token} (h : childList stop ts = .error refusal) :
    Stuck (fun kinds => ∃ below nodes, kinds = below ++ [.rightParen] ∧ Children below nodes)
      childList stop ts refusal := by
  obtain ⟨hfree, hnodes | ⟨nodes, rest, hnodes, hclose⟩⟩ := childList_error_iff.mp h
  · refine (nodeList_stuck hnodes).lift [] [.rightParen] rfl (by simp [Kind.Spellable]) ?_ ?_
    · rintro - kinds ⟨nodes, hnodes⟩
      exact ⟨kinds, nodes, rfl, .present hnodes⟩
    · intro other ts' mid' error hagree herror
      have hfree' := hagree.free hfree
      obtain ⟨rfl, -⟩ := hagree.self
      exact childList_error_iff.mpr ⟨hfree', .inl herror⟩
  · obtain ⟨first, hts, hfirst⟩ := nodeList_ok hnodes
    refine (symbol_stuck hclose trivial).lift first [] hts allSpellable_nil ?_ ?_
    · rintro - _ rfl
      exact ⟨_, nodes, rfl, .present hfirst⟩
    · intro other ts' mid' error hagree herror
      exact childList_error_iff.mpr ⟨hagree.start.free hfree,
        .inr ⟨nodes, mid', nodeList_again hnodes hagree, herror⟩⟩
termination_by (ts.length, 3)

theorem node_stuck {ts : List Token} (h : node stop ts = .error refusal) :
    Stuck (fun kinds => ∃ found, One kinds found) node stop ts refusal := by
  rcases node_error_iff.mp h with
    ⟨span, after, hts, hitem | ⟨target, children, rest, hitem, hembedded, hrefusal⟩⟩ |
    ⟨hfree, hitem⟩
  · have hshorter : after.length < ts.length := by simp [hts]
    refine (item_stuck hitem).lift [⟨.ellipsis, span⟩] [] hts allSpellable_nil ?_ ?_
    · exact fun hspread => absurd (by simp) hspread
    · intro other ts' mid' error hagree herror
      subst hts
      obtain ⟨span', rfl, -⟩ := hagree.one
      exact node_error_iff.mpr (.inl ⟨span', mid', rfl, .inl herror⟩)
  · obtain ⟨first, rfl, -⟩ := item_ok hitem
    subst hts hrefusal
    refine ⟨⟨.ellipsis, span⟩ :: first, rest, rfl, fun hspread => absurd (by simp) hspread,
      fun {other ts' rest'} hagree => ?_⟩
    obtain ⟨span', mid', rfl, hagree₁⟩ := hagree.cons (item_suffix hitem)
    exact ⟨span', node_error_iff.mpr (.inl ⟨span', mid', rfl,
      .inr ⟨target, children, rest', item_again hitem hagree₁, hembedded, rfl⟩⟩)⟩
  · refine (item_stuck hitem).lift [] [] rfl allSpellable_nil ?_ ?_
    · rintro - kinds ⟨field, children, hitem⟩
      exact ⟨_, .field (by simpa using hitem)⟩
    · intro other ts' mid' error hagree herror
      have hfree' := hagree.free hfree
      obtain ⟨rfl, -⟩ := hagree.self
      exact node_error_iff.mpr (.inr ⟨hfree', herror⟩)
termination_by (ts.length, 1)

theorem nodeList_stuck {ts : List Token} (h : nodeList stop ts = .error refusal) :
    Stuck (fun kinds => ∃ nodes, Nodes kinds nodes) nodeList stop ts refusal := by
  rcases nodeList_error_iff.mp h with hnode | ⟨found, span, more, hnode, hothers⟩
  · refine (node_stuck hnode).lift [] [] rfl allSpellable_nil ?_ ?_
    · rintro - kinds ⟨found, hone⟩
      exact ⟨_, .last (by simpa using hone)⟩
    · intro other ts' mid' error hagree herror
      obtain ⟨rfl, -⟩ := hagree.self
      exact nodeList_error_iff.mpr (.inl herror)
  · have hshorter := node_comma_shorter hnode
    obtain ⟨first, hts, hone⟩ := node_ok hnode
    refine (nodeList_stuck hothers).lift (first ++ [⟨.comma, span⟩]) [] (hts.trans (by simp))
      allSpellable_nil ?_ ?_
    · rintro - kinds ⟨nodes, hnodes⟩
      simp only [List.map_append, List.map_cons, List.map_nil, List.append_assoc,
        List.cons_append, List.nil_append, List.append_nil]
      exact ⟨_, .more hone hnodes⟩
    · intro other ts' mid' error hagree herror
      obtain ⟨_, hagree₁, hagree₂⟩ := hagree.split (node_ok hnode).suffix (List.suffix_cons _ more)
      obtain ⟨span', rfl, -⟩ := hagree₂.one
      exact nodeList_error_iff.mpr
        (.inr ⟨found, span', mid', node_again hnode hagree₁, herror⟩)
termination_by (ts.length, 2)

end

/-! ### Whole expressions -/

theorem expression_stuck (h : expression ⟨ts, stop⟩ = .error refusal) :
    Stuck (fun kinds => ∃ nodes, Nodes kinds nodes) (fun stop ts => expression ⟨ts, stop⟩) stop ts
      refusal := by
  rcases expression_error_iff.mp h with ⟨hfinish, rfl⟩ | ⟨hfinish, hnodes | ⟨nodes, rest, hnodes,
    hleft⟩⟩
  · refine ⟨[], ts, rfl, fun _ => ⟨rfl, [.star], by simp [Kind.Spellable], _, .last .star⟩,
      fun {other ts' rest'} hagree => ?_⟩
    obtain ⟨rfl, hfront⟩ := hagree.self
    exact ⟨_, expression_error_iff.mpr (.inl ⟨hfront.trans hfinish, rfl⟩)⟩
  · refine (nodeList_stuck hnodes).lift [] [] rfl allSpellable_nil ?_ ?_
    · rintro - kinds ⟨nodes, hnodes⟩
      exact ⟨nodes, by simpa using hnodes⟩
    · intro other ts' mid' error hagree herror
      obtain ⟨rfl, hfront⟩ := hagree.self
      rw [← hfront] at hfinish
      exact expression_error_iff.mpr (.inr ⟨hfinish, .inl herror⟩)
  · obtain ⟨first, hts, hfirst⟩ := nodeList_ok hnodes
    have hstarts : Starts (fun kinds => ∃ nodes, Nodes kinds nodes) (first.map Token.kind) :=
      ⟨[], allSpellable_nil, nodes, by simpa using hfirst⟩
    rcases hleft with ⟨kind, hkind, rfl⟩ | ⟨why, hwhy, rfl⟩
    · refine ⟨first, rest, hts, fun _ => ⟨rfl, hstarts⟩, fun {other ts' rest'} hagree => ?_⟩
      rw [← hagree.start.front_eq] at hfinish
      rw [← hagree.front_eq] at hkind
      exact ⟨_, expression_error_iff.mpr (.inr ⟨hfinish, .inr ⟨nodes, rest',
        nodeList_again hnodes hagree, .inl ⟨kind, hkind, rfl⟩⟩⟩)⟩
    · refine ⟨first, rest, hts, fun _ => ⟨rfl, hstarts⟩, fun {other ts' rest'} hagree => ?_⟩
      rw [← hagree.start.front_eq] at hfinish
      rw [← hagree.front_eq] at hwhy
      exact ⟨_, expression_error_iff.mpr (.inr ⟨hfinish, .inr ⟨nodes, rest',
        nodeList_again hnodes hagree, .inr ⟨why, hwhy, rfl⟩⟩⟩)⟩

/-- **Tokens that are no expression are refused at one of the lexemes,** the one that stops them
included: those before it begin an expression unless a spread is among them, and whatever goes on
as they do, through the lexeme itself, is refused for the same cause. -/
theorem expression_refused {tokens : Tokens} (h : expression tokens = .error refusal) :
    ∃ (used : List Token) (found : Lexeme) (span : Text.Span)
        (after : List (Lexeme × Text.Span)),
      used <+: tokens.tokens ∧
      tokens.lexemes = used.map (fun token => (.token token.kind, token.span)) ++
        (found, span) :: after ∧
      (.ellipsis ∉ used.map Token.kind → refusal.span = span ∧
        Starts (fun kinds => ∃ nodes, Nodes kinds nodes) (used.map Token.kind)) ∧
      ∀ other : Tokens, used.map (fun token => .token token.kind) ++ [found] <+:
        other.lexemes.map Prod.fst → ∃ span, expression other = .error ⟨refusal.cause, span⟩ := by
  obtain ⟨ts, stop⟩ := tokens
  obtain ⟨used, rest, rfl, hplace, hfails⟩ := expression_stuck h
  obtain ⟨after, hrest⟩ := lexemes_eq_front stop rest
  refine ⟨used, front stop rest, place stop rest, after, List.prefix_append used rest, ?_, hplace,
    fun other hbegin => ?_⟩
  · rw [lexemes_append, hrest]
  · obtain ⟨rest', hagree⟩ := agree_of_prefix hbegin
    exact hfails hagree

end GatewayQuery.Select.Parser
