/-
When a step fails, and with what.

`Proofs/Select/Steps.lean` says what a step comes to that succeeds.  Here is the other half: a step
fails because a step inside of it fails, after those before it have succeeded, or because it does
not want the lexeme that it finds.  Each is said in both directions, so that a failure can be taken
apart on one list of tokens and put together on another.
-/
import GatewayQuery.Proofs.Select.Lookahead

namespace GatewayQuery.Select

/-- What is wrong with a lexeme where something else was expected. -/
def Refusal.Cause.unexpected (expected : Expectation) : Lexeme → Refusal.Cause
  | .token kind => .mismatch expected kind
  | .fault why => .lexical why
  | .finish => .ended expected

namespace Parser

open Token (Kind)

variable {stop : Stop} {ts : List Token} {refusal : Refusal}

theorem refuse_eq (stop : Stop) (expected : Expectation) (ts : List Token) :
    refuse stop expected ts = ⟨.unexpected expected (front stop ts), place stop ts⟩ := by
  cases ts with
  | cons token more => rfl
  | nil =>
    rw [front_nil, Stop.lexeme, refuse]
    cases stop.fault <;> rfl

/-! ### Single tokens -/

theorem name_error_iff {expected : Expectation} :
    name stop expected ts = .error refusal ↔
      Unnamed (front stop ts) ∧
        refusal = ⟨.unexpected expected (front stop ts), place stop ts⟩ := by
  rw [← refuse_eq]
  constructor
  · intro h
    unfold name at h
    split at h
    · cases h
      exact ⟨fun kind hfront => absurd hfront (lexeme_ne_token stop kind), rfl⟩
    · rename_i token more
      split at h
      · cases h
      · rename_i hname
        cases h
        refine ⟨?_, rfl⟩
        rintro _ ⟨⟩
        exact hname
  · rintro ⟨hunnamed, rfl⟩
    cases ts with
    | nil => rfl
    | cons token more => simp only [name, hunnamed token.kind rfl]

theorem symbol_error_iff {kind : Kind} {expected : Expectation} :
    symbol stop kind expected ts = .error refusal ↔
      Free [kind] ts ∧ refusal = ⟨.unexpected expected (front stop ts), place stop ts⟩ := by
  rw [← refuse_eq]
  constructor
  · intro h
    unfold symbol at h
    split at h
    · cases h
      exact ⟨free_nil [kind], rfl⟩
    · split at h
      · cases h
      · rename_i hkind
        cases h
        exact ⟨free_cons.mpr (by simpa using hkind), rfl⟩
  · rintro ⟨hfree, rfl⟩
    cases ts with
    | nil => rfl
    | cons token more =>
      rw [free_cons, List.mem_singleton] at hfree
      simp only [symbol, if_neg hfree]

theorem symbol_cons (kind : Kind) (expected : Expectation) (span : Text.Span)
    (rest : List Token) : symbol stop kind expected (⟨kind, span⟩ :: rest) =
      .ok ((), ⟨rest, Nat.lt_succ_self _⟩) := by
  simp only [symbol, if_true]

/-! ### Parts without nodes -/

theorem castPart_error_iff :
    castPart stop ts = .error refusal ↔
      ∃ span after, ts = ⟨.doubleColon, span⟩ :: after ∧
        name stop .castType after = .error refusal := by
  constructor
  · intro h
    unfold castPart at h
    split at h
    · rename_i span after
      split at h
      · rename_i error hname
        cases h
        exact ⟨span, after, rfl, hname⟩
      · cases h
    · cases h
  · rintro ⟨span, after, rfl, hname⟩
    simp only [castPart, hname]

theorem pathPart_error_iff :
    pathPart stop ts = .error refusal ↔
      (∃ span after, ts = ⟨.arrow, span⟩ :: after ∧ name stop .jsonKey after = .error refusal) ∨
      (∃ span key after more, ts = ⟨.arrow, span⟩ :: after ∧
        Gives (name stop .jsonKey after) key more ∧ pathPart stop more = .error refusal) ∨
      (∃ span after, ts = ⟨.doubleArrow, span⟩ :: after ∧
        name stop .jsonKey after = .error refusal) := by
  constructor
  · intro h
    unfold pathPart at h
    split at h
    · rename_i span after
      split at h
      · rename_i error hname
        cases h
        exact .inl ⟨span, after, rfl, hname⟩
      · rename_i key left hname
        split at h
        · rename_i error hpath
          cases h
          exact .inr (.inl ⟨span, key, after, left.val, rfl, ⟨left.property, hname⟩, hpath⟩)
        · cases h
    · rename_i span after
      split at h
      · rename_i error hname
        cases h
        exact .inr (.inr ⟨span, after, rfl, hname⟩)
      · cases h
    · cases h
  · rintro (⟨span, after, rfl, hname⟩ | ⟨span, key, after, more, rfl, ⟨hlt, hname⟩, hpath⟩ |
      ⟨span, after, rfl, hname⟩)
    · rw [pathPart]
      simp only [hname]
    · rw [pathPart]
      simp only [hname, hpath]
    · rw [pathPart]
      simp only [hname]

theorem aggregateName_error_iff :
    aggregateName stop ts = .error refusal ↔
      (Unnamed (front stop ts) ∧
        refusal = ⟨.unexpected .aggregate (front stop ts), place stop ts⟩) ∨
      ∃ kind text, front stop ts = .token kind ∧ kind.name? = some text ∧
        AggregateFunction.ofName? text = none ∧
        refusal = ⟨.unknownAggregate text, place stop ts⟩ := by
  rw [← refuse_eq]
  constructor
  · intro h
    unfold aggregateName at h
    split at h
    · cases h
      exact .inl ⟨fun kind hfront => absurd hfront (lexeme_ne_token stop kind), rfl⟩
    · rename_i token more
      split at h
      · rename_i hname
        cases h
        refine .inl ⟨?_, rfl⟩
        rintro _ ⟨⟩
        exact hname
      · rename_i text hname
        split at h
        · rename_i hfunction
          cases h
          exact .inr ⟨token.kind, text, rfl, hname, hfunction, rfl⟩
        · cases h
  · rintro (⟨hunnamed, rfl⟩ | ⟨kind, text, hfront, hname, hfunction, rfl⟩)
    · cases ts with
      | nil => rfl
      | cons token more => simp only [aggregateName, hunnamed token.kind rfl]
    · obtain ⟨span, more, rfl⟩ := front_eq_token hfront
      simp only [aggregateName, hname, hfunction]
      rfl

theorem aggregatePart_error_iff :
    aggregatePart stop ts = .error refusal ↔
      ∃ span after, ts = ⟨.dot, span⟩ :: after ∧
        (aggregateName stop after = .error refusal ∨
        ∃ function more, Gives (aggregateName stop after) function more ∧
          (symbol stop .leftParen .aggregateParens more = .error refusal ∨
          ∃ opened inner, more = ⟨.leftParen, opened⟩ :: inner ∧
            (symbol stop .rightParen .closingParen inner = .error refusal ∨
            ∃ closed rest, inner = ⟨.rightParen, closed⟩ :: rest ∧
              castPart stop rest = .error refusal))) := by
  constructor
  · intro h
    unfold aggregatePart at h
    split at h
    · rename_i span after
      refine ⟨span, after, rfl, ?_⟩
      split at h
      · rename_i error hfunction
        cases h
        exact .inl hfunction
      · rename_i function more hfunction
        refine .inr ⟨function, more.val, ⟨more.property, hfunction⟩, ?_⟩
        split at h
        · rename_i error hopened
          cases h
          exact .inl hopened
        · rename_i inner hopened
          obtain ⟨⟨_, opened⟩, hinner, rfl⟩ := symbol_ok ⟨inner.property, hopened⟩
          refine .inr ⟨opened, inner.val, hinner, ?_⟩
          split at h
          · rename_i error hclosed
            cases h
            exact .inl hclosed
          · rename_i rest hclosed
            obtain ⟨⟨_, closed⟩, hrest, rfl⟩ := symbol_ok ⟨rest.property, hclosed⟩
            refine .inr ⟨closed, rest.val, hrest, ?_⟩
            split at h
            · rename_i error hcast
              cases h
              exact hcast
            · cases h
    · cases h
  · rintro ⟨span, after, rfl, hfunction | ⟨function, more, ⟨hlt, hfunction⟩, hopened |
      ⟨opened, inner, rfl, hclosed | ⟨closed, rest, rfl, hcast⟩⟩⟩⟩
    · simp only [aggregatePart, hfunction]
    · simp only [aggregatePart, hfunction, hopened]
    · simp only [aggregatePart, hfunction, symbol_cons, hclosed]
    · simp only [aggregatePart, hfunction, symbol_cons, hcast]

theorem columnPart_error_iff {key : Option String} {column : String} :
    columnPart stop key column ts = .error refusal ↔
      pathPart stop ts = .error refusal ∨
      ∃ path afterPath, Gives (pathPart stop ts) path afterPath ∧
        (castPart stop afterPath = .error refusal ∨
        ∃ cast afterCast, Gives (castPart stop afterPath) cast afterCast ∧
          aggregatePart stop afterCast = .error refusal) := by
  constructor
  · intro h
    unfold columnPart at h
    split at h
    · rename_i error hpath
      cases h
      exact .inl hpath
    · rename_i path afterPath hpath
      refine .inr ⟨path, afterPath.val, ⟨afterPath.property, hpath⟩, ?_⟩
      split at h
      · rename_i error hcast
        cases h
        exact .inl hcast
      · rename_i cast afterCast hcast
        refine .inr ⟨cast, afterCast.val, ⟨afterCast.property, hcast⟩, ?_⟩
        split at h
        · rename_i error haggregate
          cases h
          exact haggregate
        · cases h
  · rintro (hpath | ⟨path, afterPath, ⟨hle, hpath⟩, hcast | ⟨cast, afterCast, ⟨hle', hcast⟩,
      haggregate⟩⟩)
    · simp only [columnPart, hpath]
    · simp only [columnPart, hpath, hcast]
    · simp only [columnPart, hpath, hcast, haggregate]

/-! ### Words after exclamation marks -/

theorem hintPart_error_iff {hints : Hints} :
    hintPart stop hints ts = .error refusal ↔
      ∃ span after, ts = ⟨.bang, span⟩ :: after ∧
        ((Unnamed (front stop after) ∧
          refusal = ⟨.unexpected .hintWord (front stop after), place stop after⟩) ∨
        ∃ token more word, after = token :: more ∧ token.kind.name? = some word ∧
          ((hints.add token.kind word = none ∧ refusal = ⟨.unexpectedHint word, token.span⟩) ∨
          ∃ next, hints.add token.kind word = some next ∧
            hintPart stop next more = .error refusal)) := by
  simp only [← refuse_eq]
  constructor
  · intro h
    unfold hintPart at h
    split at h
    · rename_i span
      cases h
      exact ⟨span, [], rfl, .inl ⟨fun kind hfront => absurd hfront (lexeme_ne_token stop kind),
        rfl⟩⟩
    · rename_i span token more
      refine ⟨span, token :: more, rfl, ?_⟩
      split at h
      · rename_i hname
        cases h
        refine .inl ⟨?_, rfl⟩
        rintro _ ⟨⟩
        exact hname
      · rename_i word hname
        refine .inr ⟨token, more, word, rfl, hname, ?_⟩
        split at h
        · rename_i hadd
          cases h
          exact .inl ⟨hadd, rfl⟩
        · rename_i next hadd
          refine .inr ⟨next, hadd, ?_⟩
          split at h
          · rename_i error hnext
            cases h
            exact hnext
          · cases h
    · cases h
  · rintro ⟨span, after, rfl, ⟨hunnamed, rfl⟩ | ⟨token, more, word, rfl, hname, ⟨hadd, rfl⟩ |
      ⟨next, hadd, hnext⟩⟩⟩
    · cases after with
      | nil => rw [hintPart]
      | cons token more =>
        rw [hintPart]
        simp only [hunnamed token.kind rfl]
    · rw [hintPart]
      simp only [hname, hadd]
    · rw [hintPart]
      simp only [hname, hadd, hnext]

/-! ### Items, nodes and lists of nodes -/

theorem shorten_map_error_iff {α β : Type} {small large : List Token}
    {hlt : small.length < large.length} {result : Except Refusal (α × Tail small)}
    {change : α × Tail small → β × Tail small} :
    shorten hlt (result.map change) = .error refusal ↔ result = .error refusal := by
  cases result <;> simp [Except.map, shorten]

theorem item_error_iff :
    item stop ts = .error refusal ↔
      (∃ start, countPart (keyPart ts).2.val = some start ∧
        castPart stop start.val = .error refusal) ∨
      countPart (keyPart ts).2.val = none ∧
        (name stop .fieldName (keyPart ts).2.val = .error refusal ∨
        ∃ text after, Gives (name stop .fieldName (keyPart ts).2.val) text after ∧
          (hintPart stop .none after = .error refusal ∨
          ∃ hints more, Gives (hintPart stop .none after) hints more ∧
            ((∃ span inner, more = ⟨.leftParen, span⟩ :: inner ∧
              childList stop inner = .error refusal) ∨
            Free [.leftParen] more ∧
              ((hints.marked = true ∧
                refusal = ⟨.unexpected .embedding (front stop more), place stop more⟩) ∨
              (hints.marked = false ∧
                columnPart stop (keyPart ts).1 text more = .error refusal))))) := by
  simp only [← refuse_eq]
  constructor
  · intro h
    unfold item at h
    split at h
    · rename_i start hcount
      exact .inl ⟨start, hcount, shorten_map_error_iff.mp h⟩
    · rename_i hcount
      refine .inr ⟨hcount, ?_⟩
      split at h
      · rename_i error hname
        cases h
        exact .inl hname
      · rename_i text after hname
        refine .inr ⟨text, after.val, ⟨after.property, hname⟩, ?_⟩
        split at h
        · rename_i error hhints
          cases h
          exact .inl hhints
        · rename_i hints more hhints
          refine .inr ⟨hints, more.val, ⟨more.property, hhints⟩, ?_⟩
          split at h
          · rename_i span inner hinner
            dsimp only at h
            split at h
            · rename_i error hchildren
              cases h
              exact .inl ⟨span, inner, hinner, hchildren⟩
            · cases h
          · rename_i hparen
            refine .inr ⟨free_singleton hparen, ?_⟩
            split at h
            · rename_i hmarked
              cases h
              exact .inl ⟨hmarked, rfl⟩
            · rename_i hmarked
              exact .inr ⟨by simpa using hmarked, shorten_map_error_iff.mp h⟩
  · rintro (⟨start, hcount, hcast⟩ | ⟨hcount, hname | ⟨text, after, ⟨hlt, hname⟩, hhints |
      ⟨hints, more, ⟨hle, hhints⟩, ⟨span, inner, rfl, hchildren⟩ | ⟨hfree, hmore⟩⟩⟩⟩)
    · rw [item]
      simp only [hcount, hcast, Except.map, shorten]
    · rw [item]
      simp only [hcount, hname]
    · rw [item]
      simp only [hcount, hname, hhints]
    · rw [item]
      simp only [hcount, hname, hhints, hchildren]
    · rw [item]
      simp only [hcount, hname, hhints]
      split
      · simp at hfree
      · rcases hmore with ⟨hmarked, rfl⟩ | ⟨hmarked, hcolumn⟩
        · rw [if_pos hmarked]
        · simp only [hmarked, hcolumn, Except.map, shorten, Bool.false_eq_true, if_false]

theorem node_error_iff :
    node stop ts = .error refusal ↔
      (∃ span after, ts = ⟨.ellipsis, span⟩ :: after ∧
        (item stop after = .error refusal ∨
        ∃ target children rest, Gives (item stop after) (target, children) rest ∧
          target.embedded = false ∧ refusal = ⟨.bareSpread, span⟩)) ∨
      (Free [.star, .ellipsis] ts ∧ item stop ts = .error refusal) := by
  constructor
  · intro h
    unfold node at h
    split at h
    · cases h
    · rename_i span after
      refine .inl ⟨span, after, rfl, ?_⟩
      split at h
      · rename_i error hitem
        cases h
        exact .inl hitem
      · rename_i target children rest hitem
        split at h
        · cases h
        · rename_i hembedded
          cases h
          exact .inr ⟨target, children, rest.val, ⟨rest.property, hitem⟩, by simpa using hembedded,
            rfl⟩
    · rename_i hstar hellipsis
      refine .inr ⟨(free_singleton hstar).cons (free_singleton hellipsis), ?_⟩
      split at h
      · rename_i error hitem
        cases h
        exact hitem
      · cases h
  · rintro (⟨span, after, rfl, hitem | ⟨target, children, rest, ⟨hlt, hitem⟩, hembedded, rfl⟩⟩ |
      ⟨hfree, hitem⟩)
    · rw [node]
      simp only [hitem]
    · rw [node]
      simp only [hitem, hembedded, Bool.false_eq_true, if_false]
    · unfold node
      split
      · simp at hfree
      · simp at hfree
      · simp only [hitem]

theorem nodeList_error_iff :
    nodeList stop ts = .error refusal ↔
      node stop ts = .error refusal ∨
      ∃ found span more, Gives (node stop ts) found (⟨.comma, span⟩ :: more) ∧
        nodeList stop more = .error refusal := by
  constructor
  · intro h
    unfold nodeList at h
    split at h
    · rename_i error hnode
      cases h
      exact .inl hnode
    · rename_i found rest hnode
      split at h
      · rename_i span more hmore
        dsimp only at h
        split at h
        · rename_i error hothers
          cases h
          exact .inr ⟨found, span, more, gives_of_val hnode hmore, hothers⟩
        · cases h
      · cases h
  · rintro (hnode | ⟨found, span, more, ⟨hlt, hnode⟩, hothers⟩)
    · rw [nodeList]
      simp only [hnode]
    · rw [nodeList]
      simp only [hnode, hothers]

theorem childList_error_iff :
    childList stop ts = .error refusal ↔
      Free [.rightParen] ts ∧
        (nodeList stop ts = .error refusal ∨
        ∃ nodes rest, Gives (nodeList stop ts) nodes rest ∧
          symbol stop .rightParen .closingParen rest = .error refusal) := by
  constructor
  · intro h
    unfold childList at h
    split at h
    · cases h
    · rename_i hparen
      refine ⟨free_singleton hparen, ?_⟩
      split at h
      · rename_i error hnodes
        cases h
        exact .inl hnodes
      · rename_i nodes rest hnodes
        refine .inr ⟨nodes, rest.val, ⟨rest.property, hnodes⟩, ?_⟩
        split at h
        · rename_i error hclose
          cases h
          exact hclose
        · cases h
  · rintro ⟨hfree, hnodes | ⟨nodes, rest, ⟨hlt, hnodes⟩, hclose⟩⟩
    · unfold childList
      split
      · simp at hfree
      · simp only [hnodes]
    · unfold childList
      split
      · simp at hfree
      · simp only [hnodes, hclose]

/-! ### Whole expressions -/

theorem lexeme_eq_fault_iff {why : Token.Fault} :
    stop.lexeme = .fault why ↔ stop.fault = some why := by
  unfold Stop.lexeme
  split
  · rename_i hfault
    rw [hfault, Lexeme.fault.injEq, Option.some.injEq]
  · rename_i hfault
    simp [hfault]

theorem front_eq_finish_iff : front stop ts = .finish ↔ ts = [] ∧ stop.fault = none := by
  cases ts with
  | cons token more => simp
  | nil =>
    rw [front_nil, Stop.lexeme]
    split
    · rename_i hfault
      simp [hfault]
    · rename_i hfault
      simp [hfault]

theorem front_eq_fault_iff {why : Token.Fault} :
    front stop ts = .fault why ↔ ts = [] ∧ stop.fault = some why := by
  cases ts with
  | cons token more => simp
  | nil => simp [lexeme_eq_fault_iff]

/-- Tokens that are no expression are none at all, are refused as a list of nodes, or are followed
by more. -/
theorem expression_error_iff :
    expression ⟨ts, stop⟩ = .error refusal ↔
      (front stop ts = .finish ∧ refusal = ⟨.empty, place stop ts⟩) ∨
      (front stop ts ≠ .finish ∧
        (nodeList stop ts = .error refusal ∨
        ∃ nodes rest, Gives (nodeList stop ts) nodes rest ∧
          ((∃ kind, front stop rest = .token kind ∧ refusal = ⟨.trailing, place stop rest⟩) ∨
          ∃ why, front stop rest = .fault why ∧ refusal = ⟨.lexical why, place stop rest⟩))) := by
  unfold expression
  split
  · rename_i hts hfault
    obtain rfl : ts = [] := hts
    have hfinish : front stop [] = .finish := front_eq_finish_iff.mpr ⟨rfl, hfault⟩
    simp only [hfinish, ne_eq, not_true_eq_false, false_and, or_false, true_and,
      Except.error.injEq]
    exact eq_comm
  · rename_i hsome
    have hfinish : front stop ts ≠ .finish := by
      intro h
      obtain ⟨rfl, hfault⟩ := front_eq_finish_iff.mp h
      exact hsome rfl hfault
    simp only [hfinish, false_and, false_or, ne_eq, not_false_eq_true, true_and]
    constructor
    · intro h
      split at h
      · rename_i error hnodes
        cases h
        exact .inl hnodes
      · rename_i nodes rest hnodes
        refine .inr ⟨nodes, rest.val, ⟨rest.property, hnodes⟩, ?_⟩
        split at h
        · rename_i token more hrest
          cases h
          rw [hrest]
          exact .inl ⟨token.kind, rfl, rfl⟩
        · rename_i why hrest hfault
          cases h
          rw [hrest]
          exact .inr ⟨why, front_eq_fault_iff.mpr ⟨rfl, hfault⟩, rfl⟩
        · cases h
    · rintro (hnodes | ⟨nodes, rest, ⟨hlt, hnodes⟩, ⟨kind, hfront, rfl⟩ | ⟨why, hfront, rfl⟩⟩)
      · simp only [hnodes]
      · obtain ⟨span, more, rfl⟩ := front_eq_token hfront
        simp only [hnodes]
        rfl
      · obtain ⟨rfl, hfault⟩ := front_eq_fault_iff.mp hfront
        simp only [hnodes, hfault]
        rfl

end Parser

end GatewayQuery.Select
