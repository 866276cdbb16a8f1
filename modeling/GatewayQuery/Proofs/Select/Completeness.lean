/-
What the grammar spells is taken by the parser.

The parser is greedy, so tokens that the grammar spells as a part are taken as that
part only if what follows could not have made it longer.  Behind a whole item a
comma, a closing parenthesis or the end may stand, and none of these begins a tail:
`Ends` says so, and it is the one condition that travels through the recursion.
-/
import GatewayQuery.Proofs.Select.Grammar
import GatewayQuery.Proofs.Select.Steps

namespace GatewayQuery.Select.Parser

open Token (Kind)
open Grammar

variable {stop : Stop}

/-! ### Optional parts -/

theorem castPart_of {kinds : List Kind} {cast : Option String} {front rest : List Token}
    (h : Cast kinds cast) (hkinds : front.map Token.kind = kinds)
    (hfree : Free [.doubleColon] rest) : Gives (castPart stop (front ++ rest)) cast rest := by
  cases h with
  | absent =>
    obtain rfl := List.map_eq_nil_iff.mp hkinds
    exact castPart_free hfree
  | @present kind type hname =>
    simp only [List.map_eq_cons_iff, List.map_eq_nil_iff] at hkinds
    obtain ⟨⟨_, span⟩, _, rfl, rfl, token, _, rfl, rfl, rfl⟩ := hkinds
    exact castPart_cons hname

theorem pathPart_of {kinds : List Kind} {path : JsonPath} {front rest : List Token}
    (h : Steps kinds path) (hkinds : front.map Token.kind = kinds)
    (hfree : Free [.arrow, .doubleArrow] rest) :
    Gives (pathPart stop (front ++ rest)) path rest := by
  induction h generalizing front with
  | done =>
    obtain rfl := List.map_eq_nil_iff.mp hkinds
    exact pathPart_free hfree
  | @text kind key hname =>
    simp only [List.map_eq_cons_iff, List.map_eq_nil_iff] at hkinds
    obtain ⟨⟨_, span⟩, _, rfl, rfl, token, _, rfl, rfl, rfl⟩ := hkinds
    exact pathPart_doubleArrow hname
  | @json kind key kinds path hname _ ih =>
    simp only [List.map_eq_cons_iff] at hkinds
    obtain ⟨⟨_, span⟩, _, rfl, rfl, token, back, rfl, rfl, hback⟩ := hkinds
    exact pathPart_arrow hname (ih hback)

theorem aggregatePart_of {kinds : List Kind} {aggregate : Option Aggregate}
    {front rest : List Token} (h : Summary kinds aggregate)
    (hkinds : front.map Token.kind = kinds) (hfree : Free [.dot, .doubleColon] rest) :
    Gives (aggregatePart stop (front ++ rest)) aggregate rest := by
  cases h with
  | absent =>
    obtain rfl := List.map_eq_nil_iff.mp hkinds
    exact aggregatePart_free (hfree.mono (by simp))
  | @present kind function kinds cast hname hcast =>
    simp only [List.map_eq_cons_iff] at hkinds
    obtain ⟨⟨_, span⟩, _, rfl, rfl, token, _, rfl, rfl, ⟨_, opened⟩, _, rfl, rfl,
      ⟨_, closed⟩, back, rfl, rfl, hback⟩ := hkinds
    exact aggregatePart_cons hname (castPart_of hcast hback (hfree.mono (by simp)))

theorem hintPart_of_joins {kinds : List Kind} {innerJoin : Bool} {front rest : List Token}
    (h : Joins kinds innerJoin) (hkinds : front.map Token.kind = kinds) (hfree : Free [.bang] rest)
    (hints : Hints) :
    ∃ out, Gives (hintPart stop hints (front ++ rest)) out rest ∧ out.hint = hints.hint ∧
      out.innerJoin = (hints.innerJoin || innerJoin) := by
  induction h generalizing front hints with
  | done =>
    obtain rfl := List.map_eq_nil_iff.mp hkinds
    exact ⟨hints, hintPart_free hfree, rfl, by simp⟩
  | inner hrest ih =>
    simp only [List.map_eq_cons_iff] at hkinds
    obtain ⟨⟨_, span⟩, _, rfl, rfl, ⟨_, word⟩, back, rfl, rfl, hback⟩ := hkinds
    obtain ⟨out, hout, hhint, hinner⟩ :=
      ih hback { hints with innerJoin := true, joined := true, marked := true }
    exact ⟨out, hintPart_cons rfl rfl hout, hhint, by simp [hinner]⟩
  | left hrest ih =>
    simp only [List.map_eq_cons_iff] at hkinds
    obtain ⟨⟨_, span⟩, _, rfl, rfl, ⟨_, word⟩, back, rfl, rfl, hback⟩ := hkinds
    obtain ⟨out, hout, hhint, hinner⟩ :=
      ih hback { hints with joined := true, marked := true }
    exact ⟨out, hintPart_cons rfl rfl hout, hhint, hinner⟩

theorem hintPart_of (stop : Stop) {kinds : List Kind} {hint : Option String} {innerJoin : Bool}
    {front : List Token} (rest : List Token) (h : Grammar.Hints kinds hint innerJoin)
    (hkinds : front.map Token.kind = kinds) (hfree : Free [.bang] rest) :
    ∃ out, Gives (hintPart stop .none (front ++ rest)) out rest ∧ out.hint = hint ∧
      out.innerJoin = innerJoin := by
  cases h with
  | absent hjoins =>
    obtain ⟨out, hout, hhint, hinner⟩ := hintPart_of_joins hjoins hkinds hfree .none
    exact ⟨out, hout, hhint, hinner⟩
  | @present kind hint kinds innerJoin hname hinner hleft hjoins =>
    simp only [List.map_eq_cons_iff] at hkinds
    obtain ⟨⟨_, span⟩, _, rfl, rfl, token, back, rfl, rfl, hback⟩ := hkinds
    have hadd : Hints.none.add token.kind hint = some ⟨some hint, false, false, true⟩ := by
      simp [Hints.add, Hints.none, hinner, hleft]
    obtain ⟨out, hout, hhint, hjoin⟩ :=
      hintPart_of_joins hjoins hback hfree ⟨some hint, false, false, true⟩
    exact ⟨out, hintPart_cons hname hadd hout, hhint, by simpa using hjoin⟩

theorem keyPart_of {kinds : List Kind} {key : Option String} {front : List Token}
    (ts : List Token) (h : Key kinds key) (hkinds : front.map Token.kind = kinds)
    (hfree : Free [.colon] ts.tail) :
    (keyPart (front ++ ts)).1 = key ∧ (keyPart (front ++ ts)).2.val = ts := by
  cases h with
  | absent =>
    obtain rfl := List.map_eq_nil_iff.mp hkinds
    refine keyPart_free ?_
    rintro token rest rfl
    exact .inr hfree
  | @present kind key hname =>
    simp only [List.map_eq_cons_iff, List.map_eq_nil_iff] at hkinds
    obtain ⟨token, _, rfl, rfl, ⟨_, span⟩, _, rfl, rfl, rfl⟩ := hkinds
    exact keyPart_colon hname

/-! ### What may follow -/

/-- What may stand behind an item: a comma, a closing parenthesis or nothing. -/
def Ends (rest : List Token) : Prop :=
  ∀ token ∈ rest.head?, token.kind = .comma ∨ token.kind = .rightParen

theorem Ends.free {rest : List Token} (h : Ends rest) {kinds : List Kind}
    (hcomma : .comma ∉ kinds) (hparen : .rightParen ∉ kinds) : Free kinds rest := by
  intro token htoken
  rcases h token htoken with hkind | hkind
  · rwa [hkind]
  · rwa [hkind]

theorem ends_comma (span : Text.Span) (rest : List Token) : Ends (⟨.comma, span⟩ :: rest) := by
  rintro _ ⟨rfl⟩
  exact .inl rfl

/-- What may stand behind a whole list of nodes. -/
def Closes (rest : List Token) : Prop := ∀ token ∈ rest.head?, token.kind = .rightParen

theorem Closes.ends {rest : List Token} (h : Closes rest) : Ends rest :=
  fun token htoken => .inr (h token htoken)

theorem Closes.free {rest : List Token} (h : Closes rest) : Free [.comma] rest := by
  intro token htoken
  rw [h token htoken]
  decide

theorem closes_rightParen (span : Text.Span) (rest : List Token) :
    Closes (⟨.rightParen, span⟩ :: rest) := by
  rintro _ ⟨rfl⟩
  rfl

theorem free_of_head {kinds others : List Kind} {kind : Kind} {front rest : List Token}
    (hfront : front.map Token.kind = kind :: others) (hkind : kind ∉ kinds) :
    Free kinds (front ++ rest) := by
  obtain ⟨token, front, rfl, rfl, -⟩ := List.map_eq_cons_iff.mp hfront
  exact free_cons.mpr hkind

/-- The first token of a part decides whether the whole is free of some kinds, unless the part is
empty. -/
theorem free_append {kinds : List Kind} {front rest : List Token}
    (hfront : ∀ kind ∈ (front.map Token.kind).head?, kind ∉ kinds) (hrest : Free kinds rest) :
    Free kinds (front ++ rest) := by
  cases front with
  | nil => exact hrest
  | cons token front => exact free_cons.mpr (hfront token.kind rfl)

/-! ### What the grammar derives is read, production by production -/

theorem columnPart_of {key : Option String} {column : String} {steps cast summary rest : List Token}
    {path : JsonPath} {type : Option String} {aggregate : Option Aggregate}
    (hsteps : Steps (steps.map Token.kind) path) (hcast : Cast (cast.map Token.kind) type)
    (hsummary : Summary (summary.map Token.kind) aggregate) (hends : Ends rest) :
    Gives (columnPart stop key column (steps ++ (cast ++ (summary ++ rest))))
      ⟨column, key, none, type, aggregate, if path.keys.isEmpty then none else some path,
        false, false⟩ rest := by
  have hafterCast : Free [.doubleColon] (summary ++ rest) :=
    free_append (fun kind hkind => by rw [hsummary.head kind hkind]; decide)
      (hends.free (by decide) (by decide))
  have hafterSteps : Free [.arrow, .doubleArrow] (cast ++ (summary ++ rest)) :=
    free_append (fun kind hkind => by rw [hcast.head kind hkind]; decide)
      (free_append (fun kind hkind => by rw [hsummary.head kind hkind]; decide)
        (hends.free (by decide) (by decide)))
  exact columnPart_iff.mpr ⟨path, _, type, _, aggregate, pathPart_of hsteps rfl hafterSteps,
    castPart_of hcast rfl hafterCast,
    aggregatePart_of hsummary rfl (hends.free (by decide) (by decide)), rfl⟩

/-- Where a row count is read, the embedding would have been bare, unhinted and empty. -/
theorem isCount_of_eq {name : Token} {marks below : List Token} {hint : Option String}
    {innerJoin : Bool} {nodes : List Node} {word opened closed opened' closed' : Text.Span}
    {rest after : List Token} (hhints : Grammar.Hints (marks.map Token.kind) hint innerJoin)
    (hchildren : Children (below.map Token.kind) nodes)
    (h : name :: (marks ++ ⟨.leftParen, opened⟩ :: (below ++ ⟨.rightParen, closed⟩ :: rest)) =
      ⟨.bare "count", word⟩ :: ⟨.leftParen, opened'⟩ :: ⟨.rightParen, closed'⟩ :: after) :
    name.kind = .bare "count" ∧ marks.map Token.kind = [] ∧ below.map Token.kind = [] := by
  rw [List.cons.injEq] at h
  obtain ⟨rfl, h⟩ := h
  cases marks with
  | cons token marks =>
    have hbang := hhints.head token.kind rfl
    rw [List.cons_append, List.cons.injEq] at h
    rw [h.1] at hbang
    cases hbang
  | nil =>
    cases below with
    | cons token below =>
      simp only [List.nil_append, List.cons_append, List.cons.injEq] at h
      exact absurd (by rw [h.2.1]) (hchildren.head token.kind rfl)
    | nil => exact ⟨rfl, rfl, rfl⟩

theorem item_of_rowCount {key cast : List Kind} {label type : Option String}
    {ts front rest : List Token} (hkey : Key key label) (hcast : Cast cast type)
    (hkinds : front.map Token.kind = key ++ .bare "count" :: .leftParen :: .rightParen :: cast)
    (hts : ts = front ++ rest) (hends : Ends rest) :
    Gives (item stop ts) (Field.rowCount label type, []) rest := by
  simp only [List.map_eq_append_iff, List.map_eq_cons_iff] at hkinds
  obtain ⟨key, _, rfl, rfl, ⟨_, word⟩, _, rfl, rfl, ⟨_, opened⟩, _, rfl, rfl, ⟨_, closed⟩, cast,
    rfl, rfl, rfl⟩ := hkinds
  simp only [List.append_assoc, List.cons_append] at hts
  obtain ⟨rfl, hstart⟩ := keyPart_of (⟨.bare "count", word⟩ :: ⟨.leftParen, opened⟩ ::
    ⟨.rightParen, closed⟩ :: (cast ++ rest)) hkey rfl (by simp)
  rw [← hts] at hstart ⊢
  obtain ⟨left, hcount, hleft⟩ := countPart_of hstart
  refine item_rowCount hcount ?_
  rw [hleft]
  exact castPart_of hcast rfl (hends.free (by decide) (by decide))

theorem item_of_embedding {key hints kinds : List Kind} {name : Kind} {label hint : Option String}
    {relation : String} {innerJoin : Bool} {nodes : List Node} {ts front rest : List Token}
    (hkey : Key key label) (hname : name.name? = some relation)
    (hhints : Grammar.Hints hints hint innerJoin) (hchildren : Children kinds nodes)
    (hcount : ¬(name = .bare "count" ∧ hints = [] ∧ kinds = []))
    (hlist : ∀ {below rest : List Token} {closed : Text.Span}, below.map Token.kind = kinds →
      Gives (childList stop (below ++ ⟨.rightParen, closed⟩ :: rest)) nodes rest)
    (hkinds : front.map Token.kind =
      key ++ name :: (hints ++ .leftParen :: (kinds ++ [.rightParen])))
    (hts : ts = front ++ rest) :
    Gives (item stop ts) (Field.embedding relation label hint innerJoin, nodes) rest := by
  simp only [List.map_eq_append_iff, List.map_eq_cons_iff, List.map_eq_nil_iff] at hkinds
  obtain ⟨key, _, rfl, rfl, name, _, rfl, rfl, marks, _, rfl, rfl, ⟨_, opened⟩, _, rfl, rfl,
    below, _, rfl, rfl, ⟨_, closed⟩, _, rfl, rfl, rfl⟩ := hkinds
  simp only [List.append_assoc, List.cons_append, List.nil_append] at hts
  have hcolon : Free [.colon]
      (marks ++ ⟨.leftParen, opened⟩ :: (below ++ ⟨.rightParen, closed⟩ :: rest)) :=
    free_append (fun kind hkind => by rw [hhints.head kind hkind]; decide) (by simp)
  obtain ⟨rfl, hstart⟩ := keyPart_of
    (name :: (marks ++ ⟨.leftParen, opened⟩ :: (below ++ ⟨.rightParen, closed⟩ :: rest))) hkey rfl
    hcolon
  rw [← hts] at hstart ⊢
  have hnone : countPart (keyPart ts).2.val = none := by
    refine countPart_eq_none fun word opened' closed' after hsame => ?_
    rw [hstart] at hsame
    exact hcount (isCount_of_eq hhints hchildren hsame)
  obtain ⟨out, hout, rfl, rfl⟩ := hintPart_of stop
    (⟨.leftParen, opened⟩ :: (below ++ ⟨.rightParen, closed⟩ :: rest)) hhints rfl (by simp)
  refine item_embedding hnone ?_ hout (hlist rfl)
  rw [hstart]
  exact name_of hname

theorem item_of_column {key steps cast summary : List Kind} {name : Kind}
    {label type : Option String} {column : String} {path : JsonPath} {aggregate : Option Aggregate}
    {ts front rest : List Token} (hkey : Key key label) (hname : name.name? = some column)
    (hsteps : Steps steps path) (hcast : Cast cast type) (hsummary : Summary summary aggregate)
    (hkinds : front.map Token.kind = key ++ name :: (steps ++ (cast ++ summary)))
    (hts : ts = front ++ rest) (hends : Ends rest) :
    Gives (item stop ts) (⟨column, label, none, type, aggregate,
      if path.keys.isEmpty then none else some path, false, false⟩, []) rest := by
  simp only [List.map_eq_append_iff, List.map_eq_cons_iff] at hkinds
  obtain ⟨key, _, rfl, rfl, name, _, rfl, rfl, steps, _, rfl, rfl, cast, summary, rfl, rfl,
    rfl⟩ := hkinds
  simp only [List.append_assoc, List.cons_append] at hts
  have hfree : Free [.colon, .bang, .leftParen] (steps ++ (cast ++ (summary ++ rest))) := by
    refine free_append (fun kind hkind => ?_)
      (free_append (fun kind hkind => ?_) (free_append (fun kind hkind => ?_)
        (hends.free (by decide) (by decide))))
    · rcases hsteps.head kind hkind with rfl | rfl <;> decide
    · rw [hcast.head kind hkind]; decide
    · rw [hsummary.head kind hkind]; decide
  obtain ⟨rfl, hstart⟩ := keyPart_of (name :: (steps ++ (cast ++ (summary ++ rest)))) hkey rfl
    (hfree.mono (by simp))
  rw [← hts] at hstart ⊢
  have hnone : countPart (keyPart ts).2.val = none := by
    refine countPart_eq_none fun word opened closed after hsame => ?_
    rw [hstart, List.cons.injEq] at hsame
    rw [hsame.2] at hfree
    simp at hfree
  refine item_column hnone ?_ (hintPart_free (hfree.mono (by simp))) rfl (hfree.mono (by simp))
    (columnPart_of hsteps hcast hsummary hends)
  rw [hstart]
  exact name_of hname

theorem childList_of_nil {front rest : List Token} {span : Text.Span}
    (hkinds : front.map Token.kind = []) :
    Gives (childList stop (front ++ ⟨.rightParen, span⟩ :: rest)) [] rest := by
  obtain rfl := List.map_eq_nil_iff.mp hkinds
  exact childList_nil span rest

theorem childList_of_nodes {kinds : List Kind} {nodes : List Node} {front rest : List Token}
    {span : Text.Span} (hnodes : Nodes kinds nodes) (hkinds : front.map Token.kind = kinds)
    (hlist : Gives (nodeList stop (front ++ ⟨.rightParen, span⟩ :: rest)) nodes
      (⟨.rightParen, span⟩ :: rest)) :
    Gives (childList stop (front ++ ⟨.rightParen, span⟩ :: rest)) nodes rest := by
  obtain ⟨kind, others, rfl, hkind⟩ := hnodes.head
  refine childList_nodes (free_of_head hkinds ?_) hlist
  rintro hmem
  rw [List.mem_singleton.mp hmem] at hkind
  simp [Kind.name?] at hkind

theorem node_of_star {front rest : List Token} (hkinds : front.map Token.kind = [.star]) :
    Gives (node stop (front ++ rest)) .star rest := by
  simp only [List.map_eq_cons_iff, List.map_eq_nil_iff] at hkinds
  obtain ⟨⟨_, span⟩, _, rfl, rfl, rfl⟩ := hkinds
  exact node_star span rest

theorem node_of_field {kinds : List Kind} {field : Field} {children : List Node}
    {front rest : List Token} (h : Item kinds field children)
    (hkinds : front.map Token.kind = kinds)
    (hitem : Gives (item stop (front ++ rest)) (field, children) rest) :
    Gives (node stop (front ++ rest)) (.field field children) rest := by
  obtain ⟨kind, others, text, rfl, hname⟩ := h.head
  refine node_field (free_of_head hkinds ?_) hitem
  rintro hmem
  simp only [List.mem_cons, List.not_mem_nil, or_false] at hmem
  rcases hmem with rfl | rfl <;> cases hname

theorem node_of_spread {kinds : List Kind} {target : Field} {children : List Node}
    {front rest : List Token} (hembedded : target.embedded = true)
    (hkinds : front.map Token.kind = .ellipsis :: kinds)
    (hitem : ∀ {front : List Token}, front.map Token.kind = kinds →
      Gives (item stop (front ++ rest)) (target, children) rest) :
    Gives (node stop (front ++ rest)) (.spread target children) rest := by
  obtain ⟨⟨_, span⟩, front, rfl, rfl, hfront⟩ := List.map_eq_cons_iff.mp hkinds
  exact node_spread span (hitem hfront) hembedded

theorem nodeList_of_more {first kinds : List Kind} {found : Node} {nodes : List Node}
    {front rest : List Token} (hkinds : front.map Token.kind = first ++ .comma :: kinds)
    (hnode : ∀ {front rest : List Token}, front.map Token.kind = first → Ends rest →
      Gives (node stop (front ++ rest)) found rest)
    (hnodes : ∀ {front : List Token}, front.map Token.kind = kinds →
      Gives (nodeList stop (front ++ rest)) nodes rest) :
    Gives (nodeList stop (front ++ rest)) (found :: nodes) rest := by
  simp only [List.map_eq_append_iff, List.map_eq_cons_iff] at hkinds
  obtain ⟨first, _, rfl, hfirst, ⟨_, span⟩, others, rfl, rfl, hothers⟩ := hkinds
  rw [List.append_assoc]
  exact nodeList_more (hnode hfirst (ends_comma span (others ++ rest))) (hnodes hothers)

mutual

theorem item_of : ∀ {kinds : List Kind} {field : Field} {children : List Node}
    {front rest : List Token}, Item kinds field children → front.map Token.kind = kinds →
    Ends rest → Gives (item stop (front ++ rest)) (field, children) rest
  | _, _, _, _, _, .rowCount hkey hcast, hkinds, hends =>
    item_of_rowCount hkey hcast hkinds rfl hends
  | _, _, _, _, _, .embedding hkey hname hhints hchildren hcount, hkinds, _ =>
    item_of_embedding hkey hname hhints hchildren hcount (childList_of hchildren) hkinds rfl
  | _, _, _, _, _, .column hkey hname hsteps hcast hsummary, hkinds, hends =>
    item_of_column hkey hname hsteps hcast hsummary hkinds rfl hends

theorem childList_of : ∀ {kinds : List Kind} {nodes : List Node} {front rest : List Token}
    {span : Text.Span}, Children kinds nodes → front.map Token.kind = kinds →
    Gives (childList stop (front ++ ⟨.rightParen, span⟩ :: rest)) nodes rest
  | _, _, _, _, _, .absent, hkinds => childList_of_nil hkinds
  | _, _, _, _, _, .present hnodes, hkinds =>
    childList_of_nodes hnodes hkinds (nodeList_of hnodes hkinds (closes_rightParen _ _))

theorem node_of : ∀ {kinds : List Kind} {found : Node} {front rest : List Token},
    One kinds found → front.map Token.kind = kinds → Ends rest →
    Gives (node stop (front ++ rest)) found rest
  | _, _, _, _, .star, hkinds, _ => node_of_star hkinds
  | _, _, _, _, .field hitem, hkinds, hends =>
    node_of_field hitem hkinds (item_of hitem hkinds hends)
  | _, _, _, _, .spread hitem hembedded, hkinds, hends =>
    node_of_spread hembedded hkinds fun hfront => item_of hitem hfront hends

/-- Behind a whole list of nodes no comma may stand, but all else that ends an item. -/
theorem nodeList_of : ∀ {kinds : List Kind} {nodes : List Node} {front rest : List Token},
    Nodes kinds nodes → front.map Token.kind = kinds → Closes rest →
    Gives (nodeList stop (front ++ rest)) nodes rest
  | _, _, _, _, .last hnode, hkinds, hcloses =>
    nodeList_last (node_of hnode hkinds hcloses.ends) hcloses.free
  | _, _, _, _, .more hnode hrest, hkinds, hcloses =>
    nodeList_of_more hkinds (node_of hnode) fun hothers => nodeList_of hrest hothers hcloses

end

end GatewayQuery.Select.Parser
