/-
Where the cursor goes.

Part by part and node by node, the cursor is shown to follow the parser.  The cases are those in
which a step of the parser comes to a value or to an error; in each of them the tokens in front are
known, so the cursor's questions about the lexeme in front of it have known answers.

A turn of a loop passes a token, and so does the parenthesis before a list of nodes below another,
so tokens run out before turns do.  The induction is on the allowance, for all lists of fewer
tokens.
-/
import GatewayQuery.Proofs.Select.Diagnosis
import GatewayQuery.Proofs.Select.Runs

namespace GatewayQuery.Select.Cursor

open GatewayQuery.Select.Parser (Free Gives front place free_iff_front front_cons lexemes_append)

variable {all : Tokens} {cursor : Cursor} {ts mid rest : List Token} {refusal : Refusal}

/-! ### Parts without nodes -/

theorem castPart_follows (ts : List Token) :
    Follows all (castPart all.lexemes) ts (Parser.castPart all.stop ts) where
  yields cast rest h := by
    rcases Parser.castPart_cases h with ⟨rfl, rfl, hfree⟩ | ⟨span, token, type, rfl, hname, rfl⟩
    · exact (choose_free hfree _ _).yields (yields_pure none ts)
    · exact ((choose_cons _ span _ _ _).trans (advance_leads _ _ _)).yields
        ((name_yields _ hname rest).bind (yields_pure _ rest))
  refuses refusal h := by
    obtain ⟨span, rest, rfl, hname⟩ := Parser.castPart_error_iff.mp h
    exact ((choose_cons _ span _ _ _).trans (advance_leads _ _ _)).refuses
      ((name_follows _ _).refuses _ hname).bind

/-- One of the two arrows, the second of which leads to text. -/
def IsArrow (kind : Token.Kind) (text : Bool) : Prop :=
  kind = .arrow ∧ text = false ∨ kind = .doubleArrow ∧ text = true

theorem seesArrow_cons {kind : Token.Kind} {text : Bool} (h : IsArrow kind text)
    (span : Text.Span) (ts : List Token) :
    Yields all (seesArrow all.lexemes) (⟨kind, span⟩ :: ts) true (⟨kind, span⟩ :: ts) := by
  refine (sees_yields .arrow _).bind ((sees_yields .doubleArrow _).bind ?_)
  rcases h with ⟨rfl, -⟩ | ⟨rfl, -⟩
  · exact yields_pure true _
  · exact yields_pure true _

theorem seesArrow_free (h : Free [.arrow, .doubleArrow] ts) :
    Yields all (seesArrow all.lexemes) ts false ts :=
  (sees_free (h.mono (by simp))).bind ((sees_free (h.mono (by simp))).bind (yields_pure false ts))

/-- Behind an arrow the next key is read, and with it the path goes on. -/
theorem pathLoop_leads {kind : Token.Kind} {text : Bool} (h : IsArrow kind text)
    (span : Text.Span) (ts : List Token) (allowance : Nat) (keys : List String) :
    Leads all (pathLoop all.lexemes (allowance + 1) ⟨keys, false⟩) (⟨kind, span⟩ :: ts)
      (do
        let key ← name all.lexemes .jsonKey
        pathLoop all.lexemes allowance ⟨keys ++ [key], text⟩) ts := by
  have htext : Yields all (sees all.lexemes .doubleArrow) (⟨kind, span⟩ :: ts) text
      (⟨kind, span⟩ :: ts) := by
    rcases h with ⟨rfl, rfl⟩ | ⟨rfl, rfl⟩
    · exact sees_yields .doubleArrow _
    · exact sees_yields .doubleArrow _
  refine (seesArrow_cons h span ts).leads.trans ?_
  exact htext.leads.trans (turn_leads _ _ _)

/-- A path ends where no arrow is, and behind the arrow that leads to text. -/
theorem pathLoop_done {path : JsonPath} (h : path.text = true ∨ Free [.arrow, .doubleArrow] ts)
    (allowance : Nat) :
    Yields all (pathLoop all.lexemes (allowance + 1) path) ts path ts := by
  obtain ⟨seen, hseen⟩ : ∃ seen, Yields all (seesArrow all.lexemes) ts seen ts :=
    ⟨_, (sees_yields .arrow ts).bind ((sees_yields .doubleArrow ts).bind (yields_pure _ ts))⟩
  rcases h with htext | hfree
  · refine hseen.bind ?_
    rw [htext]
    exact yields_pure path ts
  · refine (seesArrow_free hfree).bind ?_
    rw [Bool.and_false]
    exact yields_pure path ts

theorem pathLoop_yields {path : JsonPath} {allowance : Nat} (hallowance : ts.length < allowance)
    (h : Gives (Parser.pathPart all.stop ts) path rest) (keys : List String) :
    Yields all (pathLoop all.lexemes allowance ⟨keys, false⟩) ts ⟨keys ++ path.keys, path.text⟩
      rest := by
  induction allowance generalizing ts path keys with
  | zero => exact absurd hallowance (Nat.not_lt_zero _)
  | succ allowance ih =>
    rcases Parser.pathPart_cases h with ⟨rfl, rfl, hfree⟩ |
      ⟨span, token, key, after, more, rfl, hname, hmore, rfl⟩ | ⟨span, token, key, rfl, hname, rfl⟩
    · rw [List.append_nil]
      exact pathLoop_done (.inr hfree) allowance
    · refine (pathLoop_leads (.inl ⟨rfl, rfl⟩) span _ allowance keys).yields ?_
      refine (name_yields .jsonKey hname after).bind ?_
      have hkeys : keys ++ key :: more.keys = keys ++ [key] ++ more.keys := List.append_cons ..
      show Yields all _ after (⟨keys ++ key :: more.keys, more.text⟩ : JsonPath) rest
      rw [hkeys]
      exact ih (by simp only [List.length_cons] at hallowance; omega) hmore (keys ++ [key])
    · refine (pathLoop_leads (.inr ⟨rfl, rfl⟩) span _ allowance keys).yields ?_
      refine (name_yields .jsonKey hname rest).bind ?_
      obtain ⟨left, rfl⟩ : ∃ left, allowance = left + 1 :=
        Nat.exists_eq_succ_of_ne_zero (by simp only [List.length_cons] at hallowance; omega)
      exact pathLoop_done (.inl rfl) left

theorem pathLoop_refuses {allowance : Nat} (hallowance : ts.length < allowance)
    (h : Parser.pathPart all.stop ts = .error refusal) (keys : List String) :
    Refuses all (pathLoop all.lexemes allowance ⟨keys, false⟩) ts refusal := by
  induction allowance generalizing ts keys with
  | zero => exact absurd hallowance (Nat.not_lt_zero _)
  | succ allowance ih =>
    rcases Parser.pathPart_error_iff.mp h with ⟨span, after, rfl, hname⟩ |
      ⟨span, key, after, more, rfl, hname, hmore⟩ | ⟨span, after, rfl, hname⟩
    · exact (pathLoop_leads (.inl ⟨rfl, rfl⟩) span _ allowance keys).refuses
        ((name_follows _ _).refuses _ hname).bind
    · refine (pathLoop_leads (.inl ⟨rfl, rfl⟩) span _ allowance keys).refuses ?_
      have hlt := hname.1
      refine ((name_follows _ _).yields _ _ hname).leads.refuses ?_
      exact ih (by simp only [List.length_cons] at hallowance; omega) hmore (keys ++ [key])
    · exact (pathLoop_leads (.inr ⟨rfl, rfl⟩) span _ allowance keys).refuses
        ((name_follows _ _).refuses _ hname).bind

theorem pathPart_yields {path : JsonPath} {allowance : Nat} (hallowance : ts.length < allowance)
    (h : Gives (Parser.pathPart all.stop ts) path rest) :
    Yields all (pathPart all.lexemes allowance) ts
      (if path.keys.isEmpty then none else some path) rest := by
  have hloop := pathLoop_yields hallowance h []
  rcases Parser.pathPart_cases h with ⟨rfl, rfl, hfree⟩ |
    ⟨span, token, key, after, more, rfl, -, -, rfl⟩ | ⟨span, token, key, rfl, -, rfl⟩
  · exact (seesArrow_free hfree).bind (yields_pure none ts)
  · exact (seesArrow_cons (.inl ⟨rfl, rfl⟩) span _).bind (hloop.bind (yields_pure _ rest))
  · exact (seesArrow_cons (.inr ⟨rfl, rfl⟩) span _).bind (hloop.bind (yields_pure _ rest))

theorem pathPart_refuses {allowance : Nat} (hallowance : ts.length < allowance)
    (h : Parser.pathPart all.stop ts = .error refusal) :
    Refuses all (pathPart all.lexemes allowance) ts refusal := by
  have hloop := pathLoop_refuses hallowance h []
  rcases Parser.pathPart_error_iff.mp h with ⟨span, after, rfl, -⟩ |
    ⟨span, key, after, more, rfl, -, -⟩ | ⟨span, after, rfl, -⟩
  · exact (seesArrow_cons (.inl ⟨rfl, rfl⟩) span after).leads.refuses hloop.bind
  · exact (seesArrow_cons (.inl ⟨rfl, rfl⟩) span after).leads.refuses hloop.bind
  · exact (seesArrow_cons (.inr ⟨rfl, rfl⟩) span after).leads.refuses hloop.bind

theorem aggregateName_follows (ts : List Token) :
    Follows all (aggregateName all.lexemes) ts (Parser.aggregateName all.stop ts) where
  yields function rest h := by
    obtain ⟨token, rfl, hname⟩ := Parser.aggregateName_ok h
    refine (current_yields _).bind ((name_yields _ hname rest).bind ?_)
    rw [AggregateFunction.ofName?_name]
    exact yields_pure function rest
  refuses refusal h := by
    rcases Parser.aggregateName_error_iff.mp h with ⟨hunnamed, rfl⟩ |
      ⟨kind, text, hfront, hname, hfunction, rfl⟩
    · refine (current_yields ts).leads.refuses ((name_follows _ ts).refuses _ ?_).bind
      exact Parser.name_error_iff.mpr ⟨hunnamed, rfl⟩
    · obtain ⟨span, more, rfl⟩ := Parser.front_eq_token hfront
      refine .of_shown fun hshown => (current_yields _).leads.refuses ?_
      refine (name_yields _ hname more).leads.refuses ?_
      rw [hfunction]
      exact refuses_throw hshown more

theorem aggregatePart_follows (ts : List Token) :
    Follows all (aggregatePart all.lexemes) ts (Parser.aggregatePart all.stop ts) where
  yields aggregate rest h := by
    rcases Parser.aggregatePart_cases h with ⟨rfl, rfl, hfree⟩ |
      ⟨dot, token, opened, closed, after, function, cast, rfl, hname, hcast, rfl⟩
    · exact (choose_free hfree _ _).yields (yields_pure none ts)
    · refine ((choose_cons _ dot _ _ _).trans (advance_leads _ _ _)).yields ?_
      refine ((aggregateName_follows _).yields _ _ (Parser.aggregateName_of hname)).bind ?_
      refine (symbol_yields _ _ opened _).bind ((symbol_yields _ _ closed after).bind ?_)
      exact ((castPart_follows after).yields _ _ hcast).bind (yields_pure _ rest)
  refuses refusal h := by
    obtain ⟨dot, after, rfl, hrest⟩ := Parser.aggregatePart_error_iff.mp h
    refine ((choose_cons _ dot _ _ _).trans (advance_leads _ _ _)).refuses ?_
    rcases hrest with hfunction | ⟨function, more, hfunction, hrest⟩
    · exact ((aggregateName_follows after).refuses _ hfunction).bind
    refine ((aggregateName_follows after).yields _ _ hfunction).leads.refuses ?_
    rcases hrest with hopened | ⟨opened, inner, rfl, hrest⟩
    · exact ((symbol_follows _ _ more).refuses _ hopened).bind
    refine (symbol_yields _ _ opened inner).leads.refuses ?_
    rcases hrest with hclosed | ⟨closed, rest, rfl, hcast⟩
    · exact ((symbol_follows _ _ inner).refuses _ hclosed).bind
    refine (symbol_yields _ _ closed rest).leads.refuses ?_
    exact ((castPart_follows rest).refuses _ hcast).bind

theorem columnPart_follows {allowance : Nat} (hallowance : ts.length < allowance)
    (key : Option String) (column : String) :
    Follows all (columnPart all.lexemes allowance key column) ts
      (Parser.columnPart all.stop key column ts) where
  yields field rest h := by
    obtain ⟨path, afterPath, cast, afterCast, aggregate, hpath, hcast, haggregate, rfl⟩ :=
      Parser.columnPart_iff.mp h
    refine (pathPart_yields hallowance hpath).bind ?_
    refine ((castPart_follows afterPath).yields _ _ hcast).bind ?_
    exact ((aggregatePart_follows afterCast).yields _ _ haggregate).bind (yields_pure _ rest)
  refuses refusal h := by
    rcases Parser.columnPart_error_iff.mp h with hpath | ⟨path, afterPath, hpath, hrest⟩
    · exact (pathPart_refuses hallowance hpath).bind
    refine (pathPart_yields hallowance hpath).leads.refuses ?_
    rcases hrest with hcast | ⟨cast, afterCast, hcast, haggregate⟩
    · exact ((castPart_follows afterPath).refuses _ hcast).bind
    refine ((castPart_follows afterPath).yields _ _ hcast).leads.refuses ?_
    exact ((aggregatePart_follows afterCast).refuses _ haggregate).bind

/-! ### Words after exclamation marks -/

/-- What a word after an exclamation mark adds. -/
theorem hintWord_leads {token : Token} {word : String} (hname : token.kind.name? = some word)
    (hints : Parser.Hints) (ts : List Token) :
    Leads all (hintWord all.lexemes hints) (token :: ts)
      (match hints.add token.kind word with
        | none => throw (.refused ⟨.unexpectedHint word, token.span⟩)
        | some hints => return hints) ts :=
  (current_yields _).leads.trans (name_yields _ hname ts).leads

theorem hintWord_yields {token : Token} {word : String} {hints out : Parser.Hints}
    (hname : token.kind.name? = some word) (hadd : hints.add token.kind word = some out)
    (ts : List Token) : Yields all (hintWord all.lexemes hints) (token :: ts) out ts := by
  refine (hintWord_leads hname hints ts).yields ?_
  rw [hadd]
  exact yields_pure out ts

theorem hintLoop_follows {allowance : Nat} (hallowance : ts.length < allowance)
    (hints : Parser.Hints) :
    Follows all (hintLoop all.lexemes allowance hints) ts
      (Parser.hintPart all.stop hints ts) := by
  induction allowance generalizing ts hints with
  | zero => exact absurd hallowance (Nat.not_lt_zero _)
  | succ allowance ih =>
    constructor
    · intro out rest h
      rcases Parser.hintPart_cases h with ⟨rfl, rfl, hfree⟩ |
        ⟨span, token, after, word, out, rfl, hname, hadd, hout⟩
      · exact (choose_free hfree _ _).yields (yields_pure out ts)
      · refine ((choose_cons _ span _ _ _).trans (turn_leads _ _ _)).yields ?_
        refine (hintWord_yields hname hadd after).bind ?_
        exact (ih (by simp only [List.length_cons] at hallowance; omega) out).yields _ _ hout
    · intro refusal h
      obtain ⟨span, after, rfl, hrest⟩ := Parser.hintPart_error_iff.mp h
      refine ((choose_cons _ span _ _ _).trans (turn_leads _ _ _)).refuses ?_
      rcases hrest with ⟨hunnamed, rfl⟩ | ⟨token, more, word, rfl, hname, hrest⟩
      · refine ((current_yields after).leads.refuses ?_).bind
        exact ((name_follows _ after).refuses _ (Parser.name_error_iff.mpr ⟨hunnamed, rfl⟩)).bind
      rcases hrest with ⟨hadd, rfl⟩ | ⟨out, hadd, hout⟩
      · refine .of_shown fun hshown => ((hintWord_leads hname hints more).refuses ?_).bind
        rw [hadd]
        exact refuses_throw hshown more
      · refine (hintWord_yields hname hadd more).leads.refuses ?_
        exact (ih (by simp only [List.length_cons] at hallowance; omega) out).refuses _ hout

/-- Hints are done where none of them was given or an embedding follows. -/
theorem hintPart_yields {allowance : Nat} (hallowance : ts.length < allowance)
    {hints : Parser.Hints} (h : Gives (Parser.hintPart all.stop .none ts) hints rest)
    (hopen : hints.marked = false ∨ ∃ span inner, rest = ⟨.leftParen, span⟩ :: inner) :
    Yields all (hintPart all.lexemes allowance) ts hints rest := by
  refine ((hintLoop_follows hallowance .none).yields _ _ h).bind ?_
  rcases hopen with hmarked | ⟨span, inner, rfl⟩
  · refine (sees_yields .leftParen rest).bind ?_
    rw [hmarked, Bool.false_and]
    exact yields_pure hints rest
  · refine (sees_cons .leftParen span inner).bind ?_
    rw [Bool.not_true, Bool.and_false]
    exact yields_pure hints _

theorem hintPart_refuses {allowance : Nat} (hallowance : ts.length < allowance)
    (h : Parser.hintPart all.stop .none ts = .error refusal) :
    Refuses all (hintPart all.lexemes allowance) ts refusal :=
  ((hintLoop_follows hallowance .none).refuses _ h).bind

theorem hintPart_unopened {allowance : Nat} (hallowance : ts.length < allowance)
    {hints : Parser.Hints} (h : Gives (Parser.hintPart all.stop .none ts) hints rest)
    (hmarked : hints.marked = true) (hfree : Free [.leftParen] rest) :
    Refuses all (hintPart all.lexemes allowance) ts
      ⟨.unexpected .embedding (front all.stop rest), place all.stop rest⟩ := by
  refine ((hintLoop_follows hallowance .none).yields _ _ h).leads.refuses ?_
  refine (sees_free hfree).leads.refuses ?_
  rw [hmarked]
  exact refuse_refuses .embedding rest

/-! ### Further lexemes -/

/-- Further on there is a token exactly if there is one among the tokens. -/
theorem getElem?_lexemes_eq_token {kind : Token.Kind} (stop : Stop) (ts : List Token)
    (distance : Nat) :
    (Tokens.lexemes ⟨ts, stop⟩)[distance]?.map Prod.fst = some (.token kind) ↔
      ∃ span, ts[distance]? = some ⟨kind, span⟩ := by
  induction ts generalizing distance with
  | nil =>
    refine iff_of_false (fun h => ?_) (by simp)
    cases distance with
    | zero => exact Parser.lexeme_ne_token stop kind (Option.some.inj h)
    | succ distance => cases h
  | cons token more ih =>
    cases distance with
    | zero =>
      obtain ⟨found, span⟩ := token
      simp
    | succ distance => exact ih distance

theorem keyPart_yields (ts : List Token) :
    Yields all (keyPart all.lexemes) ts (Parser.keyPart ts).1 (Parser.keyPart ts).2.val := by
  refine (current_yields ts).bind ((ahead_yields ts 1).bind ?_)
  rcases Parser.keyPart_cases ts with ⟨token, span, rest, key, rfl, hname, hkey, hrest⟩ |
    ⟨hkey, hrest, hnone⟩
  · rw [hkey, hrest, front_cons, name?_token, hname]
    exact (name_yields _ hname _).bind ((advance_yields _ rest).bind (yields_pure _ rest))
  · rw [hkey, hrest]
    have hcond : ((front all.stop ts).name?.isSome &&
        (Tokens.lexemes ⟨ts, all.stop⟩)[1]?.map Prod.fst == some (.token .colon)) = false := by
      refine Bool.eq_false_iff.mpr fun htrue => ?_
      rw [Bool.and_eq_true, beq_iff_eq, getElem?_lexemes_eq_token] at htrue
      obtain ⟨hname, span, hcolon⟩ := htrue
      obtain ⟨token, after, rfl⟩ : ∃ token after, ts = token :: ⟨.colon, span⟩ :: after := by
        match ts, hcolon with
        | token :: next :: after, hnext => exact ⟨token, after, by rw [Option.some.inj hnext]⟩
      rcases hnone token _ rfl with hunnamed | hfree
      · rw [front_cons, name?_token, hunnamed] at hname
        cases hname
      · exact Parser.free_cons.mp hfree List.mem_cons_self
    rw [hcond]
    exact yields_pure none ts

/-- Three tokens ahead tell a row count. -/
theorem seesRowCount_yields (ts : List Token) :
    Yields all (seesRowCount all.lexemes) ts (Parser.countPart ts).isSome ts := by
  refine (current_yields ts).bind ((ahead_yields ts 1).bind ((ahead_yields ts 2).bind ?_))
  have hcond : (decide (front all.stop ts = .token (.bare "count")) &&
      (Tokens.lexemes ⟨ts, all.stop⟩)[1]?.map Prod.fst == some (.token .leftParen) &&
      (Tokens.lexemes ⟨ts, all.stop⟩)[2]?.map Prod.fst == some (.token .rightParen)) =
        (Parser.countPart ts).isSome := by
    rw [Bool.eq_iff_iff]
    simp only [Bool.and_eq_true, decide_eq_true_eq, beq_iff_eq, getElem?_lexemes_eq_token]
    constructor
    · rintro ⟨⟨hword, opened, hopened⟩, closed, hclosed⟩
      obtain ⟨word, more, rfl⟩ := Parser.front_eq_token hword
      match more, hopened, hclosed with
      | second :: third :: after, hsecond, hthird =>
        rw [Option.some.inj hsecond, Option.some.inj hthird]
        rfl
    · intro hsome
      obtain ⟨left, hleft⟩ := Option.isSome_iff_exists.mp hsome
      obtain ⟨word, opened, closed, hts⟩ := Parser.countPart_some hleft
      rw [hts]
      exact ⟨⟨rfl, opened, rfl⟩, closed, rfl⟩
  rw [hcond]
  exact yields_pure _ ts

theorem rowCount_leads {key : Option String} {word opened closed : Text.Span}
    (h : ts = ⟨.bare "count", word⟩ :: ⟨.leftParen, opened⟩ :: ⟨.rightParen, closed⟩ :: rest) :
    Leads all (rowCount all.lexemes key) ts
      (do return (Field.rowCount key (← castPart all.lexemes), [])) rest := by
  rw [h]
  exact (advance_leads _ _ _).trans ((advance_leads _ _ _).trans (advance_leads _ _ _))

/-! ### Nodes -/

/-- What is read below a node follows the parser on fewer tokens than some others. -/
def Nested (all : Tokens) (nested : Run (List Node)) (ts : List Token) : Prop :=
  ∀ inner, inner.length < ts.length →
    Follows all nested inner (Parser.nodeList all.stop inner)

theorem Nested.mono {nested : Run (List Node)} {fewer : List Token} (h : Nested all nested ts)
    (hfewer : fewer.length ≤ ts.length) : Nested all nested fewer :=
  fun inner hinner => h inner (Nat.lt_of_lt_of_le hinner hfewer)

theorem childList_yields {nested : Run (List Node)} {inner : List Token}
    (h : Follows all nested inner (Parser.nodeList all.stop inner)) (span : Text.Span)
    {children : List Node} (hchildren : Gives (Parser.childList all.stop inner) children rest) :
    Yields all (childList all.lexemes nested) (⟨.leftParen, span⟩ :: inner) children rest := by
  refine ((choose_cons _ span inner _ _).yields (turn_yields _ inner)).bind ?_
  rcases Parser.childList_cases hchildren with ⟨close, rfl, rfl⟩ | ⟨hfree, close, hnodes⟩
  · exact ((choose_cons _ close rest _ _).trans (advance_leads _ _ _)).yields (yields_pure [] rest)
  · refine (choose_free hfree _ _).yields ((h.yields _ _ hnodes).bind ?_)
    exact (symbol_yields _ _ close rest).bind (yields_pure children rest)

theorem childList_refuses {nested : Run (List Node)} {inner : List Token}
    (h : Follows all nested inner (Parser.nodeList all.stop inner)) (span : Text.Span)
    (hchildren : Parser.childList all.stop inner = .error refusal) :
    Refuses all (childList all.lexemes nested) (⟨.leftParen, span⟩ :: inner) refusal := by
  refine ((choose_cons _ span inner _ _).yields (turn_yields _ inner)).leads.refuses ?_
  obtain ⟨hfree, hnodes | ⟨nodes, rest, hnodes, hclose⟩⟩ :=
    Parser.childList_error_iff.mp hchildren
  · exact (choose_free hfree _ _).refuses (h.refuses _ hnodes).bind
  · refine (choose_free hfree _ _).refuses ((h.yields _ _ hnodes).leads.refuses ?_)
    exact ((symbol_follows _ _ rest).refuses _ hclose).bind

section Named

variable {nested : Run (List Node)} {allowance : Nat} {key : Option String} {text : String}
  {hints : Parser.Hints} {span : Text.Span} {inner more : List Token}

/-- A name with the hints behind it, in front of the nodes of an embedding. -/
theorem named_leads (hallowance : ts.length ≤ allowance)
    (hname : Gives (Parser.name all.stop .fieldName ts) text mid)
    (hhints : Gives (Parser.hintPart all.stop .none mid) hints (⟨.leftParen, span⟩ :: inner)) :
    Leads all (named all.lexemes nested allowance key) ts
      (do return (.embedding text key hints.hint hints.innerJoin, ← childList all.lexemes nested))
      (⟨.leftParen, span⟩ :: inner) := by
  have hlt := Nat.lt_of_lt_of_le hname.1 hallowance
  refine ((name_follows _ ts).yields _ _ hname).leads.trans ?_
  refine (hintPart_yields hlt hhints (.inr ⟨span, inner, rfl⟩)).leads.trans ?_
  refine (sees_cons .leftParen span inner).leads.trans ?_
  rw [Bool.or_true]
  exact .refl _ _

/-- A name with no hints and no parenthesis behind it. -/
theorem named_column_leads (hallowance : ts.length ≤ allowance)
    (hname : Gives (Parser.name all.stop .fieldName ts) text mid)
    (hhints : Gives (Parser.hintPart all.stop .none mid) hints more)
    (hmarked : hints.marked = false) (hfree : Free [.leftParen] more) :
    Leads all (named all.lexemes nested allowance key) ts
      (do return (← columnPart all.lexemes allowance key text, [])) more := by
  have hlt := Nat.lt_of_lt_of_le hname.1 hallowance
  refine ((name_follows _ ts).yields _ _ hname).leads.trans ?_
  refine (hintPart_yields hlt hhints (.inl hmarked)).leads.trans ?_
  refine (sees_free hfree).leads.trans ?_
  rw [hmarked, Bool.false_or]
  exact .refl _ _

end Named

theorem item_follows {nested : Run (List Node)} (hnested : Nested all nested ts) {allowance : Nat}
    (hallowance : ts.length ≤ allowance) :
    Follows all (item all.lexemes nested allowance) ts (Parser.item all.stop ts) := by
  have hkey := (Parser.keyPart ts).2.property
  have hstart : (Parser.keyPart ts).2.val.length ≤ allowance := Nat.le_trans hkey hallowance
  have hread (result : Bool)
      (hcount : (Parser.countPart (Parser.keyPart ts).2.val).isSome = result) :
      Leads all (item all.lexemes nested allowance) ts
        (if result = true then rowCount all.lexemes (Parser.keyPart ts).1
          else named all.lexemes nested allowance (Parser.keyPart ts).1)
        (Parser.keyPart ts).2.val := by
    rw [← hcount]
    exact (keyPart_yields ts).leads.trans (seesRowCount_yields _).leads
  constructor
  · rintro ⟨field, children⟩ rest h
    rcases Parser.item_cases h with ⟨start, cast, hcount, hcast, rfl, rfl⟩ |
      ⟨text, after, hints, span, inner, hcount, hname, hhints, hchildren, rfl⟩ |
      ⟨text, after, hints, more, hname, hhints, hmarked, hfree, hcolumn, rfl⟩
    · obtain ⟨word, opened, closed, htokens⟩ := Parser.countPart_some hcount
      refine (hread true (by rw [hcount]; rfl)).yields ((rowCount_leads htokens).yields ?_)
      exact ((castPart_follows _).yields _ _ hcast).bind (yields_pure _ rest)
    · have hinner := hnested inner (Parser.item_open_shorter hname hhints)
      refine (hread false (by rw [hcount]; rfl)).yields ?_
      refine (named_leads hstart hname hhints).yields ?_
      exact (childList_yields hinner span hchildren).bind (yields_pure _ rest)
    · have hcount : Parser.countPart (Parser.keyPart ts).2.val = none := by
        obtain ⟨token, htokens, -⟩ := Parser.name_ok hname
        rw [htokens]
        exact Parser.countPart_of_free (Parser.hintPart_unopened hhints hfree)
      have hmore : more.length < allowance :=
        Nat.lt_of_le_of_lt hhints.1 (Nat.lt_of_lt_of_le hname.1 hstart)
      refine (hread false (by rw [hcount]; rfl)).yields ?_
      refine (named_column_leads hstart hname hhints hmarked hfree).yields ?_
      exact ((columnPart_follows hmore _ text).yields _ _ hcolumn).bind (yields_pure _ rest)
  · intro refusal h
    rcases Parser.item_error_iff.mp h with ⟨start, hcount, hcast⟩ | ⟨hcount, h⟩
    · obtain ⟨word, opened, closed, htokens⟩ := Parser.countPart_some hcount
      refine (hread true (by rw [hcount]; rfl)).refuses ((rowCount_leads htokens).refuses ?_)
      exact ((castPart_follows _).refuses _ hcast).bind
    refine (hread false (by rw [hcount]; rfl)).refuses ?_
    rcases h with hname | ⟨text, after, hname, h⟩
    · exact ((name_follows _ _).refuses _ hname).bind
    have hafter := Nat.lt_of_lt_of_le hname.1 hstart
    rcases h with hhints | ⟨hints, more, hhints, h⟩
    · refine ((name_follows _ _).yields _ _ hname).leads.refuses ?_
      exact (hintPart_refuses hafter hhints).bind
    rcases h with ⟨span, inner, rfl, hchildren⟩ | ⟨hfree, ⟨hmarked, rfl⟩ | ⟨hmarked, hcolumn⟩⟩
    · have hinner := hnested inner (Parser.item_open_shorter hname hhints)
      refine (named_leads hstart hname hhints).refuses ?_
      exact (childList_refuses hinner span hchildren).bind
    · refine ((name_follows _ _).yields _ _ hname).leads.refuses ?_
      exact (hintPart_unopened hafter hhints hmarked hfree).bind
    · refine (named_column_leads hstart hname hhints hmarked hfree).refuses ?_
      have hmore : more.length < allowance := Nat.lt_of_le_of_lt hhints.1 hafter
      exact ((columnPart_follows hmore _ text).refuses _ hcolumn).bind

/-- A node that is neither a star nor a spread. -/
theorem node_leads {nested : Run (List Node)} {allowance : Nat}
    (h : Free [Token.Kind.star, .ellipsis] ts) :
    Leads all (node all.lexemes nested allowance) ts
      (do
        let found ← item all.lexemes nested allowance
        return .field found.1 found.2) ts := by
  refine (current_yields ts).leads.trans ?_
  have hfront := (free_iff_front all.stop).mp h
  split
  · next hstar => exact absurd hstar (hfront Token.Kind.star (by simp))
  · next hellipsis => exact absurd hellipsis (hfront Token.Kind.ellipsis (by simp))
  · exact .refl _ _

theorem node_follows {nested : Run (List Node)} (hnested : Nested all nested ts) {allowance : Nat}
    (hallowance : ts.length ≤ allowance) :
    Follows all (node all.lexemes nested allowance) ts (Parser.node all.stop ts) where
  yields found rest h := by
    rcases Parser.node_cases h with ⟨span, rfl, rfl⟩ |
      ⟨span, after, target, children, rfl, hitem, hembedded, rfl⟩ |
      ⟨field, children, hfree, hitem, rfl⟩
    · exact (current_yields _).leads.yields
        ((advance_leads _ _ _).yields (yields_pure Node.star rest))
    · have hle : after.length ≤ (Token.mk .ellipsis span :: after).length := Nat.le_succ _
      have hfollows := item_follows (hnested.mono hle) (Nat.le_trans hle hallowance)
      refine (current_yields _).leads.yields ((advance_leads _ _ _).yields ?_)
      refine (hfollows.yields _ _ hitem).bind ?_
      rw [if_pos hembedded]
      exact yields_pure _ rest
    · exact (node_leads hfree).yields
        (((item_follows hnested hallowance).yields _ _ hitem).bind (yields_pure _ rest))
  refuses refusal h := by
    rcases Parser.node_error_iff.mp h with ⟨span, after, rfl, hrest⟩ | ⟨hfree, hitem⟩
    · have hle : after.length ≤ (Token.mk .ellipsis span :: after).length := Nat.le_succ _
      have hfollows := item_follows (hnested.mono hle) (Nat.le_trans hle hallowance)
      refine .of_shown fun hshown => ?_
      refine (current_yields _).leads.refuses ((advance_leads _ _ _).refuses ?_)
      rcases hrest with hitem | ⟨target, children, rest, hitem, hembedded, rfl⟩
      · exact (hfollows.refuses _ hitem).bind
      · refine (hfollows.yields _ _ hitem).leads.refuses ?_
        rw [hembedded, if_neg Bool.false_ne_true]
        exact refuses_throw hshown rest
    · exact (node_leads hfree).refuses ((item_follows hnested hallowance).refuses _ hitem).bind

/-- **An allowance of one turn for each lexeme that is left is enough.** -/
theorem nodeList_follows {allowance : Nat} (hallowance : ts.length < allowance) :
    Follows all (nodeList all.lexemes allowance) ts (Parser.nodeList all.stop ts) := by
  induction allowance generalizing ts with
  | zero => exact absurd hallowance (Nat.not_lt_zero _)
  | succ allowance ih =>
    have hle : ts.length ≤ allowance := Nat.le_of_lt_succ hallowance
    have hnode := node_follows (fun inner hinner => ih (Nat.lt_of_lt_of_le hinner hle)) hle
    constructor
    · intro nodes rest h
      rcases Parser.nodeList_cases h with ⟨found, hfound, rfl, hfree⟩ |
        ⟨found, span, more, others, hfound, hothers, rfl⟩
      · refine (hnode.yields _ _ hfound).bind ?_
        exact (choose_free hfree _ _).yields (yields_pure [found] rest)
      · have hmore := Nat.lt_of_lt_of_le (Parser.node_comma_shorter hfound) hle
        refine (hnode.yields _ _ hfound).bind ?_
        refine ((choose_cons _ span more _ _).trans (turn_leads _ _ _)).yields ?_
        exact ((ih hmore).yields _ _ hothers).bind (yields_pure _ rest)
    · intro refusal h
      rcases Parser.nodeList_error_iff.mp h with hfound | ⟨found, span, more, hfound, hothers⟩
      · exact (hnode.refuses _ hfound).bind
      · have hmore := Nat.lt_of_lt_of_le (Parser.node_comma_shorter hfound) hle
        refine (hnode.yields _ _ hfound).leads.refuses ?_
        refine ((choose_cons _ span more _ _).trans (turn_leads _ _ _)).refuses ?_
        exact ((ih hmore).refuses _ hothers).bind

/-! ### Whole expressions -/

theorem expression_yields {allowance : Nat} (hallowance : all.tokens.length < allowance)
    {nodes : List Node} (h : Parser.expression all = .ok nodes) :
    Yields all (expression all.lexemes allowance) all.tokens nodes [] := by
  obtain ⟨hfault, hnodes⟩ := Parser.expression_eq_ok_iff.mp h
  have hstart : front all.stop all.tokens ≠ .finish := fun hfinish =>
    nomatch h.symm.trans (Parser.expression_error_iff.mpr (.inl ⟨hfinish, rfl⟩))
  refine (current_yields _).leads.yields ?_
  rw [if_neg hstart]
  refine ((nodeList_follows hallowance).yields _ _ hnodes).bind ((current_yields []).bind ?_)
  rw [Parser.front_eq_finish_iff.mpr ⟨rfl, hfault⟩]
  exact yields_pure nodes []

theorem expression_refuses {allowance : Nat} (hallowance : all.tokens.length < allowance)
    (h : Parser.expression all = .error refusal) :
    Refuses all (expression all.lexemes allowance) all.tokens refusal := by
  refine .of_shown fun hshown => (current_yields _).leads.refuses ?_
  rcases Parser.expression_error_iff.mp h with ⟨hfinish, rfl⟩ | ⟨hstart, h⟩
  · rw [if_pos hfinish]
    exact refuses_throw hshown _
  rw [if_neg hstart]
  rcases h with hnodes | ⟨nodes, rest, hnodes, hlast⟩
  · exact ((nodeList_follows hallowance).refuses _ hnodes).bind
  refine ((nodeList_follows hallowance).yields _ _ hnodes).leads.refuses ?_
  refine .of_shown fun hshown => (current_yields rest).leads.refuses ?_
  rcases hlast with ⟨kind, hkind, rfl⟩ | ⟨why, hwhy, rfl⟩
  · rw [hkind]
    exact refuses_throw hshown rest
  · rw [hwhy]
    exact refuses_throw hshown rest

/-- The cursor is at a lexeme and came there straight, so it was at one all the way.  It passed
tokens only, and so never the last lexeme. -/
structure Steady (lexemes : List (Lexeme × Text.Span)) (cursor : Cursor) : Prop
    extends Straight cursor where
  inRange : cursor.position < lexemes.length
  passed : ∀ lexeme ∈ lexemes.take cursor.position, ∃ kind, lexeme.1 = .token kind

theorem At.steady (h : At all cursor ts) : Steady all.lexemes cursor where
  toStraight := h.toStraight
  inRange := Nat.lt_of_le_of_lt (Nat.le_add_right ..) h.position_lt
  passed lexeme hmem := by
    obtain ⟨used, hposition, hlexemes⟩ := h.lexemes
    rw [hlexemes, hposition, List.take_left' (List.length_map _)] at hmem
    obtain ⟨token, -, rfl⟩ := List.mem_map.mp hmem
    exact ⟨token.kind, rfl⟩

theorem Steady.length_moves {lexemes : List (Lexeme × Text.Span)} (h : Steady lexemes cursor) :
    cursor.moves.length < lexemes.length := by
  rw [h.moves, List.length_map, List.length_range]
  exact h.inRange

/-- How a run ends that comes to what the parser comes to. -/
def ending (cursor : Cursor) :
    Except ParseError (List Node) → EStateM.Result Halt Cursor (List Node)
  | .ok nodes => .ok nodes cursor
  | .error e => .error (.refused e.toRefusal) cursor

/-- From a lexeme of the text on there is a remainder. -/
theorem dropBytes?_of_mem {input : String} {found : Lexeme} {refusal : Refusal}
    (h : (found, refusal.span) ∈ (Tokens.ofString input).lexemes) :
    Text.dropBytes? refusal.span.start input.toList =
      some (ParseError.of input refusal).remainder.toList := by
  obtain ⟨before, behind, hinput, hstart⟩ := (Tokens.laid_scan 0 input.toList).boundary _ h
  have hdrop : Text.dropBytes? refusal.span.start input.toList = some behind := by
    rw [hinput, hstart, Nat.zero_add, Text.dropBytes?_append]
  rw [ParseError.of, Text.Span.remainder, hdrop, Option.getD_some, String.toList_ofList]

/-- **The cursor is always at a lexeme and always moves.**  With a turn for each lexeme, and with
any number of turns more, reading by the cursor comes to what the parser comes to: it never looks
where there is no lexeme, and never for want of turns does it end.  It moves fewer times than there
are lexemes, each time to the next one.  What is refused is refused at the place of a lexeme, so
that the rest of the text from there on is its remainder. -/
theorem parse_by_cursor (input : String) (extra : Nat) :
    ∃ cursor,
      (expression (Tokens.ofString input).lexemes
          ((Tokens.ofString input).lexemes.length + extra)).run start =
        ending cursor (parse input) ∧
      Steady (Tokens.ofString input).lexemes cursor ∧
      cursor.moves.length < (Tokens.ofString input).lexemes.length ∧
      ∀ e, parse input = .error e →
        (∃ found, (found, e.span) ∈ (Tokens.ofString input).lexemes) ∧
        Text.dropBytes? e.span.start input.toList = some e.remainder.toList := by
  have hallowance : (Tokens.ofString input).tokens.length <
      (Tokens.ofString input).lexemes.length + extra := by
    rw [length_lexemes]
    omega
  have hstart := at_start (Tokens.ofString input)
  cases hparse : parse input with
  | ok nodes =>
    have hnodes := parse_eq_ok_iff_expression.mp hparse
    obtain ⟨cursor, hrun, hat⟩ := expression_yields hallowance hnodes start hstart
    refine ⟨cursor, hrun, hat.steady, hat.steady.length_moves, fun e he => ?_⟩
    cases he
  | error e =>
    obtain ⟨refusal, hrefusal, rfl⟩ := parse_eq_error_iff.mp hparse
    obtain ⟨cursor, rest, hrun, hat, found, hfound⟩ :=
      expression_refuses hallowance hrefusal start hstart
    refine ⟨cursor, hrun, hat.steady, hat.steady.length_moves, fun e he => ?_⟩
    cases he
    exact ⟨⟨found, hfound⟩, dropBytes?_of_mem hfound⟩

/-- A spread of what is no embedding is refused at its three dots, which the cursor has passed by
then. -/
theorem parse_by_cursor_spread :
    parse "a,...b" = .error ⟨⟨.bareSpread, ⟨2, 5⟩⟩, "...b"⟩ ∧
      (∃ found, (found, ⟨2, 5⟩) ∈ (Tokens.ofString "a,...b").lexemes) ∧
      Text.dropBytes? 2 "a,...b".toList = some "...b".toList := by
  have htokens : Tokens.ofString "a,...b" =
      ⟨[⟨.bare "a", ⟨0, 1⟩⟩, ⟨.comma, ⟨1, 2⟩⟩, ⟨.ellipsis, ⟨2, 5⟩⟩, ⟨.bare "b", ⟨5, 6⟩⟩],
        ⟨none, ⟨6, 6⟩⟩⟩ := by decide +kernel
  have hrefused : Parser.expression (Tokens.ofString "a,...b") = .error ⟨.bareSpread, ⟨2, 5⟩⟩ := by
    rw [htokens]
    cbv
  have herror : parse "a,...b" = .error ⟨⟨.bareSpread, ⟨2, 5⟩⟩, "...b"⟩ :=
    parse_eq_error_iff.mpr ⟨_, hrefused, by decide +kernel⟩
  obtain ⟨-, -, -, -, hplace⟩ := parse_by_cursor "a,...b" 0
  exact ⟨herror, hplace _ herror⟩

end GatewayQuery.Select.Cursor
