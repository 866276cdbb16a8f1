/-
A step looks no further than one token.

Whether a step succeeds, and with what, depends on the tokens that it takes and on the one behind
them, which decides that the part ends there.  Places do not count, and what comes after that one
token does not either.  `Agree` relates two token lists that are the same as far as that; then a
step that succeeds on one of them succeeds on the other with the same value.

The two exceptions look further and are at home in an item: a name is a key only if a colon follows,
and three tokens make a row count.  Each of them is settled by tokens that the item takes in any
case, and by the one behind them.
-/
import GatewayQuery.Proofs.Select.Layout
import GatewayQuery.Proofs.Select.Soundness

namespace GatewayQuery.Select.Parser

open Token (Kind)

/-- What stands at the front of the tokens, which is what stops them if there are none. -/
def front (stop : Stop) : List Token → Lexeme
  | token :: _ => .token token.kind
  | [] => stop.lexeme

/-- Where that stands. -/
def place (stop : Stop) : List Token → Text.Span
  | token :: _ => token.span
  | [] => stop.span

@[simp] theorem front_cons (stop : Stop) (token : Token) (ts : List Token) :
    front stop (token :: ts) = .token token.kind := rfl

@[simp] theorem front_nil (stop : Stop) : front stop [] = stop.lexeme := rfl

theorem lexeme_ne_token (stop : Stop) (kind : Kind) : stop.lexeme ≠ .token kind := by
  unfold Stop.lexeme
  split <;> simp

theorem front_eq_token {stop : Stop} {ts : List Token} {kind : Kind}
    (h : front stop ts = .token kind) : ∃ span more, ts = ⟨kind, span⟩ :: more := by
  cases ts with
  | cons token more =>
    obtain ⟨_, span⟩ := token
    cases h
    exact ⟨span, more, rfl⟩
  | nil => exact absurd h (lexeme_ne_token stop kind)

theorem free_iff_front (stop : Stop) {kinds : List Kind} {ts : List Token} :
    Free kinds ts ↔ ∀ kind ∈ kinds, front stop ts ≠ .token kind := by
  cases ts with
  | cons token more =>
    rw [free_cons]
    constructor
    · rintro hfree kind hmem heq
      cases heq
      exact hfree hmem
    · exact fun h hmem => h _ hmem rfl
  | nil => exact iff_of_true (free_nil kinds) fun kind _ => lexeme_ne_token stop kind

/-- The lexeme is no name. -/
def Unnamed (lexeme : Lexeme) : Prop := ∀ kind, lexeme = .token kind → kind.name? = none

/-- Two lists hold tokens of the same kinds up to two tails, which begin with the same lexeme. -/
def Agree (stop other : Stop) (ts rest ts' rest' : List Token) : Prop :=
  ∃ used used', ts = used ++ rest ∧ ts' = used' ++ rest' ∧
    used'.map Token.kind = used.map Token.kind ∧ front other rest' = front stop rest

namespace Agree

variable {stop other : Stop} {token : Token} {ts mid rest ts' rest' : List Token}

/-- Where nothing was taken the tails are the lists. -/
theorem self (h : Agree stop other rest rest ts' rest') :
    ts' = rest' ∧ front other rest' = front stop rest := by
  obtain ⟨used, used', hused, rfl, hkinds, hfront⟩ := h
  obtain rfl : used = [] := List.append_left_eq_self.mp hused.symm
  obtain rfl := List.map_eq_nil_iff.mp hkinds
  exact ⟨rfl, hfront⟩

theorem cons (h : Agree stop other (token :: ts) rest ts' rest') (hrest : rest <:+ ts) :
    ∃ span more, ts' = ⟨token.kind, span⟩ :: more ∧ Agree stop other ts rest more rest' := by
  obtain ⟨used, used', hused, rfl, hkinds, hfront⟩ := h
  obtain ⟨back, rfl⟩ := hrest
  obtain rfl : token :: back = used := List.append_cancel_right hused
  obtain ⟨⟨_, span⟩, back', rfl, rfl, hback⟩ := List.map_eq_cons_iff.mp hkinds
  exact ⟨span, back' ++ rest', rfl, back, back', rfl, rfl, hback, hfront⟩

/-- Where one token was taken the lists are that token and their tails. -/
theorem one (h : Agree stop other (token :: rest) rest ts' rest') :
    ∃ span, ts' = ⟨token.kind, span⟩ :: rest' ∧ front other rest' = front stop rest := by
  obtain ⟨span, more, rfl, hagree⟩ := h.cons (List.suffix_refl rest)
  obtain ⟨rfl, hfront⟩ := hagree.self
  exact ⟨span, rfl, hfront⟩

/-- Lists that agree as far as a tail agree as far as any longer tail, and from there on. -/
theorem split (h : Agree stop other ts rest ts' rest') (hmid : mid <:+ ts) (hrest : rest <:+ mid) :
    ∃ mid', Agree stop other ts mid ts' mid' ∧ Agree stop other mid rest mid' rest' := by
  obtain ⟨used, used', hused, rfl, hkinds, hfront⟩ := h
  obtain ⟨back, rfl⟩ := hrest
  obtain ⟨first, rfl⟩ := hmid
  rw [← List.append_assoc] at hused
  obtain rfl : first ++ back = used := List.append_cancel_right hused
  rw [List.map_append] at hkinds
  obtain ⟨first', back', rfl, hfirst, hback⟩ := List.map_eq_append_iff.mp hkinds
  refine ⟨back' ++ rest', ⟨first, first', rfl, List.append_assoc .., hfirst, ?_⟩,
    back, back', rfl, rfl, hback, hfront⟩
  cases back with
  | nil =>
    obtain rfl := List.map_eq_nil_iff.mp hback
    exact hfront
  | cons token back =>
    obtain ⟨token', back', rfl, hkind, -⟩ := List.map_eq_cons_iff.mp hback
    exact congrArg Lexeme.token hkind

theorem front_eq (h : Agree stop other ts rest ts' rest') :
    front other rest' = front stop rest := h.choose_spec.choose_spec.2.2.2

theorem free {kinds : List Kind} (h : Agree stop other ts rest ts' rest')
    (hfree : Free kinds rest) : Free kinds rest' := by
  rw [free_iff_front other, h.front_eq]
  exact (free_iff_front stop).mp hfree

theorem here (h : front other rest' = front stop rest) : Agree stop other rest rest rest' rest' :=
  ⟨[], [], rfl, rfl, rfl, h⟩

theorem tails (h : Agree stop other ts rest ts' rest') : Agree stop other rest rest rest' rest' :=
  here h.front_eq

theorem start (h : Agree stop other ts rest ts' rest') :
    Agree stop other ts ts ts' ts' := by
  have hrest : rest <:+ ts := by
    obtain ⟨used, -, rfl, -⟩ := h
    exact List.suffix_append used rest
  obtain ⟨_, hagree, -⟩ := h.split (List.suffix_refl ts) hrest
  obtain ⟨rfl, hfront⟩ := hagree.self
  exact here hfront

end Agree

theorem lexemes_eq_front (stop : Stop) (ts : List Token) :
    ∃ after, Tokens.lexemes ⟨ts, stop⟩ = (front stop ts, place stop ts) :: after := by
  cases ts with
  | nil => exact ⟨[], rfl⟩
  | cons token more => exact ⟨_, rfl⟩

theorem lexemes_append (stop : Stop) (used rest : List Token) :
    Tokens.lexemes ⟨used ++ rest, stop⟩ =
      used.map (fun token => (.token token.kind, token.span)) ++ Tokens.lexemes ⟨rest, stop⟩ := by
  simp [Tokens.lexemes]

/-- Lexemes that begin like others, through the first one of a tail, belong to tokens that agree
as far as that tail. -/
theorem agree_of_prefix {stop other : Stop} {used rest ts' : List Token}
    (h : used.map (fun token => Lexeme.token token.kind) ++ [front stop rest] <+:
      (Tokens.lexemes ⟨ts', other⟩).map Prod.fst) :
    ∃ rest', Agree stop other (used ++ rest) rest ts' rest' := by
  induction used generalizing ts' with
  | nil =>
    obtain ⟨after, hlexemes⟩ := lexemes_eq_front other ts'
    rw [hlexemes, List.map_cons, List.map_nil, List.nil_append, List.cons_prefix_cons] at h
    exact ⟨ts', Agree.here h.1.symm⟩
  | cons token used ih =>
    cases ts' with
    | nil =>
      rw [Tokens.lexemes_nil, List.map_cons, List.cons_append, List.map_cons,
        List.cons_prefix_cons] at h
      exact absurd h.1.symm (lexeme_ne_token other token.kind)
    | cons token' more =>
      rw [Tokens.lexemes_cons, List.map_cons, List.cons_append, List.map_cons,
        List.cons_prefix_cons] at h
      obtain ⟨hkind, hmore⟩ := h
      obtain ⟨rest', first, first', hfirst, rfl, hkinds, hfront⟩ := ih hmore
      refine ⟨rest', token :: first, token' :: first', congrArg (token :: ·) hfirst, rfl, ?_,
        hfront⟩
      rw [List.map_cons, List.map_cons, hkinds, (Lexeme.token.inj hkind).symm]

/-! ### What a step leaves is an end of what it was given -/

theorem Begins.suffix {α : Type} {G : List Kind → α → Prop} {ts rest : List Token} {value : α}
    (h : Begins G ts value rest) : rest <:+ ts := by
  obtain ⟨front, rfl, -⟩ := h
  exact List.suffix_append front rest

variable {stop other : Stop} {ts rest ts' rest' : List Token}

theorem hintPart_suffix {hints out : Hints} {ts : List Token}
    (h : Gives (hintPart stop hints ts) out rest) : rest <:+ ts := by
  rcases hintPart_cases h with ⟨rfl, -, -⟩ | ⟨span, token, after, word, next, rfl, -, -, hnext⟩
  · exact List.suffix_refl ts
  · have hafter : rest <:+ after := hintPart_suffix hnext
    exact hafter.trans ((List.suffix_cons token after).trans (List.suffix_cons _ _))
termination_by ts.length

theorem item_suffix {field : Field} {children : List Node}
    (h : Gives (item stop ts) (field, children) rest) : rest <:+ ts := by
  obtain ⟨front, rfl, -⟩ := item_ok h
  exact List.suffix_append front rest

theorem childList_suffix {nodes : List Node} (h : Gives (childList stop ts) nodes rest) :
    rest <:+ ts := by
  obtain ⟨front, span, rfl, -⟩ := childList_ok h
  exact ⟨front ++ [⟨.rightParen, span⟩], by simp⟩

theorem columnPart_suffix {key : Option String} {column : String} {field : Field}
    (h : Gives (columnPart stop key column ts) field rest) : rest <:+ ts := by
  obtain ⟨steps, cast, summary, _, _, _, rfl, -⟩ := columnPart_ok h
  exact ⟨steps ++ (cast ++ summary), by simp⟩

/-! ### Parts without nodes -/

theorem castPart_again {cast : Option String} (h : Gives (castPart stop ts) cast rest)
    (hagree : Agree stop other ts rest ts' rest') : Gives (castPart other ts') cast rest' := by
  rcases castPart_cases h with ⟨rfl, rfl, hfree⟩ | ⟨span, token, type, rfl, hname, rfl⟩
  · obtain ⟨rfl, -⟩ := hagree.self
    exact castPart_free (hagree.free hfree)
  · obtain ⟨_, _, rfl, hagree₁⟩ := hagree.cons (List.suffix_cons token rest)
    obtain ⟨_, rfl, -⟩ := hagree₁.one
    exact castPart_cons hname

theorem pathPart_again {path : JsonPath} {ts ts' : List Token}
    (h : Gives (pathPart stop ts) path rest) (hagree : Agree stop other ts rest ts' rest') :
    Gives (pathPart other ts') path rest' := by
  rcases pathPart_cases h with ⟨rfl, rfl, hfree⟩ |
    ⟨span, token, key, after, more, rfl, hname, hmore, rfl⟩ | ⟨span, token, key, rfl, hname, rfl⟩
  · obtain ⟨rfl, -⟩ := hagree.self
    exact pathPart_free (hagree.free hfree)
  · have hafter : rest <:+ after := (pathPart_ok hmore).suffix
    obtain ⟨_, _, rfl, hagree₁⟩ := hagree.cons (hafter.trans (List.suffix_cons token after))
    obtain ⟨_, _, rfl, hagree₂⟩ := hagree₁.cons hafter
    exact pathPart_arrow hname (pathPart_again hmore hagree₂)
  · obtain ⟨_, _, rfl, hagree₁⟩ := hagree.cons (List.suffix_cons token rest)
    obtain ⟨_, rfl, -⟩ := hagree₁.one
    exact pathPart_doubleArrow hname
termination_by ts.length

theorem aggregatePart_again {aggregate : Option Aggregate}
    (h : Gives (aggregatePart stop ts) aggregate rest)
    (hagree : Agree stop other ts rest ts' rest') :
    Gives (aggregatePart other ts') aggregate rest' := by
  rcases aggregatePart_cases h with ⟨rfl, rfl, hfree⟩ |
    ⟨dot, token, opened, closed, after, function, cast, rfl, hname, hcast, rfl⟩
  · obtain ⟨rfl, -⟩ := hagree.self
    exact aggregatePart_free (hagree.free hfree)
  · have hafter : rest <:+ after := (castPart_ok hcast).suffix
    have hclosed := hafter.trans (List.suffix_cons ⟨.rightParen, closed⟩ after)
    have hopened := hclosed.trans (List.suffix_cons ⟨.leftParen, opened⟩ _)
    obtain ⟨_, _, rfl, hagree₁⟩ := hagree.cons (hopened.trans (List.suffix_cons token _))
    obtain ⟨_, _, rfl, hagree₂⟩ := hagree₁.cons hopened
    obtain ⟨_, _, rfl, hagree₃⟩ := hagree₂.cons hclosed
    obtain ⟨_, _, rfl, hagree₄⟩ := hagree₃.cons hafter
    exact aggregatePart_cons hname (castPart_again hcast hagree₄)

theorem columnPart_again {key : Option String} {column : String} {field : Field}
    (h : Gives (columnPart stop key column ts) field rest)
    (hagree : Agree stop other ts rest ts' rest') :
    Gives (columnPart other key column ts') field rest' := by
  obtain ⟨path, afterPath, cast, afterCast, aggregate, hpath, hcast, haggregate, rfl⟩ :=
    columnPart_iff.mp h
  have hafterCast := (aggregatePart_ok haggregate).suffix
  have hafterPath := hafterCast.trans (castPart_ok hcast).suffix
  obtain ⟨_, hagreePath, hagree⟩ := hagree.split (pathPart_ok hpath).suffix hafterPath
  obtain ⟨_, hagreeCast, hagree⟩ := hagree.split (castPart_ok hcast).suffix hafterCast
  exact columnPart_iff.mpr ⟨path, _, cast, _, aggregate, pathPart_again hpath hagreePath,
    castPart_again hcast hagreeCast, aggregatePart_again haggregate hagree, rfl⟩

theorem hintPart_again {hints out : Hints} {ts ts' : List Token}
    (h : Gives (hintPart stop hints ts) out rest) (hagree : Agree stop other ts rest ts' rest') :
    Gives (hintPart other hints ts') out rest' := by
  rcases hintPart_cases h with
    ⟨rfl, rfl, hfree⟩ | ⟨span, token, after, word, next, rfl, hname, hadd, hnext⟩
  · obtain ⟨rfl, -⟩ := hagree.self
    exact hintPart_free (hagree.free hfree)
  · have hafter := hintPart_suffix hnext
    obtain ⟨_, _, rfl, hagree₁⟩ := hagree.cons (hafter.trans (List.suffix_cons token after))
    obtain ⟨_, _, rfl, hagree₂⟩ := hagree₁.cons hafter
    exact hintPart_cons hname hadd (hintPart_again hnext hagree₂)
termination_by ts.length

/-! ### Keys and row counts -/

/-- Whether a name is a key is settled by the lexeme behind it. -/
theorem keyPart_again {token : Token} {after after' : List Token}
    (hstart : (keyPart ts).2.val = token :: after) (hagree : Agree stop other ts after ts' after') :
    (keyPart ts').1 = (keyPart ts).1 ∧
      ∃ span, (keyPart ts').2.val = ⟨token.kind, span⟩ :: after' := by
  rcases keyPart_cases ts with ⟨label, colon, more, key, rfl, hname, hkey, hmore⟩ |
    ⟨hkey, hts, hunlabelled⟩
  · rw [hstart] at hmore
    subst hmore
    obtain ⟨_, _, rfl, hagree₁⟩ := hagree.cons
      ((List.suffix_cons token after).trans (List.suffix_cons _ _))
    obtain ⟨_, _, rfl, hagree₂⟩ := hagree₁.cons (List.suffix_cons token after)
    obtain ⟨span, rfl, -⟩ := hagree₂.one
    exact ⟨(keyPart_colon hname).1.trans hkey.symm, span, (keyPart_colon hname).2⟩
  · rw [hstart] at hts
    subst hts
    obtain ⟨span, rfl, -⟩ := hagree.one
    have hunlabelled' : ∀ name rest, ⟨token.kind, span⟩ :: after' = name :: rest →
        name.kind.name? = none ∨ Free [.colon] rest := by
      rintro _ _ ⟨⟩
      exact (hunlabelled token after rfl).imp id hagree.free
    obtain ⟨hkey', hrest'⟩ := keyPart_free hunlabelled'
    exact ⟨hkey'.trans hkey.symm, span, hrest'⟩

/-- Where no name stands behind a key there is no second key. -/
theorem keyPart_again_of_unnamed {start' : List Token}
    (hunnamed : Unnamed (front stop (keyPart ts).2.val))
    (hagree : Agree stop other ts (keyPart ts).2.val ts' start') :
    (keyPart ts').1 = (keyPart ts).1 ∧ (keyPart ts').2.val = start' := by
  rcases keyPart_cases ts with ⟨label, colon, more, key, rfl, hname, hkey, hmore⟩ |
    ⟨hkey, hts, -⟩
  · rw [hmore] at hagree
    obtain ⟨_, _, rfl, hagree₁⟩ := hagree.cons (List.suffix_cons ⟨.colon, colon⟩ more)
    obtain ⟨_, rfl, -⟩ := hagree₁.one
    exact ⟨(keyPart_colon hname).1.trans hkey.symm, (keyPart_colon hname).2⟩
  · rw [hts] at hagree hunnamed
    obtain ⟨rfl, hfront⟩ := hagree.self
    have hunlabelled : ∀ name rest, ts' = name :: rest →
        name.kind.name? = none ∨ Free [.colon] rest := by
      rintro name rest rfl
      exact .inl (hunnamed name.kind hfront.symm)
    obtain ⟨hkey', hrest'⟩ := keyPart_free hunlabelled
    exact ⟨hkey'.trans hkey.symm, hrest'⟩

/-- What is no row count because of its hints or its nodes is none wherever these stand. -/
theorem countPart_again {name name' : Token} {after inner after' inner' : List Token}
    {hints : Hints} {span : Text.Span} (h : countPart (name :: after) = none)
    (hkind : name'.kind = name.kind)
    (hhints : Gives (hintPart stop .none after) hints (⟨.leftParen, span⟩ :: inner))
    (hagree : Agree stop other after inner after' inner') : countPart (name' :: after') = none := by
  refine countPart_eq_none fun word opened closed more hsame => ?_
  cases hsame
  have hinner : inner <:+ after :=
    (List.suffix_cons ⟨.leftParen, span⟩ inner).trans (hintPart_suffix hhints)
  rcases hintPart_cases hhints with ⟨rfl, -, -⟩ | ⟨_, token, _, _, _, rfl, -, -, hnext⟩
  · obtain ⟨_, hopened, hfront⟩ := hagree.one
    cases hopened
    rw [front_cons] at hfront
    obtain ⟨close, more, rfl⟩ := front_eq_token hfront.symm
    obtain ⟨_, word⟩ := name
    cases hkind
    exact countPart_none h word span close more rfl
  · have hlater := (List.suffix_cons ⟨.leftParen, span⟩ inner).trans (hintPart_suffix hnext)
    obtain ⟨_, _, hopened, -⟩ := hagree.cons (hlater.trans (List.suffix_cons token _))
    cases hopened

theorem countPart_of_free {name : Token} {after : List Token} (h : Free [.leftParen] after) :
    countPart (name :: after) = none := by
  refine countPart_eq_none fun word opened closed more hsame => ?_
  cases hsame
  simp at h

/-! ### Items, nodes and lists of nodes -/

/-- A row count is read again, with its key. -/
theorem item_count_again {start : Rest (keyPart ts).2.val} {start' : List Token}
    (hcount : countPart (keyPart ts).2.val = some start)
    (hagree : Agree stop other ts start.val ts' start') :
    (keyPart ts').1 = (keyPart ts).1 ∧
      ∃ left, countPart (keyPart ts').2.val = some left ∧ left.val = start' := by
  obtain ⟨word, opened, closed, hstart⟩ := countPart_some hcount
  have hclosed := List.suffix_cons ⟨.rightParen, closed⟩ start.val
  have hopened := hclosed.trans (List.suffix_cons ⟨.leftParen, opened⟩ _)
  have hkey := (keyPart_ok ts).suffix
  rw [hstart] at hkey
  obtain ⟨after', hagreeKey, hagree₁⟩ := hagree.split ((List.suffix_cons _ _).trans hkey) hopened
  obtain ⟨hkey', span, hstart'⟩ := keyPart_again hstart hagreeKey
  obtain ⟨_, _, rfl, hagree₂⟩ := hagree₁.cons hclosed
  obtain ⟨_, rfl, -⟩ := hagree₂.one
  exact ⟨hkey', countPart_of hstart'⟩

theorem item_count_suffix {start : Rest (keyPart ts).2.val}
    (hcount : countPart (keyPart ts).2.val = some start) : start.val <:+ ts := by
  obtain ⟨word, opened, closed, hstart⟩ := countPart_some hcount
  have hkey := (keyPart_ok ts).suffix
  rw [hstart] at hkey
  exact (((List.suffix_cons _ _).trans (List.suffix_cons _ _)).trans (List.suffix_cons _ _)).trans
    hkey

/-- The name of an item is read again, with its key. -/
theorem item_name_again {after after' : List Token} {text : String}
    (hname : Gives (name stop .fieldName (keyPart ts).2.val) text after)
    (hagree : Agree stop other ts after ts' after') :
    (keyPart ts').1 = (keyPart ts).1 ∧
      Gives (name other .fieldName (keyPart ts').2.val) text after' ∧
      ∃ token span, (keyPart ts).2.val = token :: after ∧
        (keyPart ts').2.val = ⟨token.kind, span⟩ :: after' := by
  obtain ⟨token, hstart, hkind⟩ := name_ok hname
  obtain ⟨hkey, span, hstart'⟩ := keyPart_again hstart hagree
  refine ⟨hkey, ?_, token, span, hstart, hstart'⟩
  rw [hstart']
  exact name_of hkind

theorem item_name_suffix {after : List Token} {text : String}
    (hname : Gives (name stop .fieldName (keyPart ts).2.val) text after) : after <:+ ts := by
  obtain ⟨token, hstart, -⟩ := name_ok hname
  have hkey := (keyPart_ok ts).suffix
  rw [hstart] at hkey
  exact (List.suffix_cons token after).trans hkey

/-- An embedding is opened again, whatever its nodes are. -/
theorem item_open_again {after inner inner' : List Token} {text : String} {hints : Hints}
    {span : Text.Span} (hcount : countPart (keyPart ts).2.val = none)
    (hname : Gives (name stop .fieldName (keyPart ts).2.val) text after)
    (hhints : Gives (hintPart stop .none after) hints (⟨.leftParen, span⟩ :: inner))
    (hagree : Agree stop other ts inner ts' inner') :
    ∃ after' span', (keyPart ts').1 = (keyPart ts).1 ∧
      countPart (keyPart ts').2.val = none ∧
      Gives (name other .fieldName (keyPart ts').2.val) text after' ∧
      Gives (hintPart other .none after') hints (⟨.leftParen, span'⟩ :: inner') := by
  have hopen := hintPart_suffix hhints
  have hinner : inner <:+ after := (List.suffix_cons _ inner).trans hopen
  obtain ⟨after', hagreeName, hagree₁⟩ := hagree.split (item_name_suffix hname) hinner
  obtain ⟨hkey, hname', token, _, hstart, hstart'⟩ := item_name_again hname hagreeName
  obtain ⟨_, hagreeHints, hagree₂⟩ := hagree₁.split hopen (List.suffix_cons _ inner)
  obtain ⟨span', rfl, -⟩ := hagree₂.one
  refine ⟨after', span', hkey, ?_, hname', hintPart_again hhints hagreeHints⟩
  rw [hstart] at hcount
  rw [hstart']
  exact countPart_again hcount rfl hhints hagree₁

/-- Hints with no parenthesis behind them have none in front of them. -/
theorem hintPart_unopened {hints out : Hints} (h : Gives (hintPart stop hints ts) out rest)
    (hfree : Free [.leftParen] rest) : Free [.leftParen] ts := by
  rcases hintPart_cases h with ⟨rfl, -, -⟩ | ⟨span, token, after, _, _, rfl, -, -, -⟩
  · exact hfree
  · simp

mutual

theorem item_again {ts rest ts' rest' : List Token} {field : Field} {children : List Node}
    (h : Gives (item stop ts) (field, children) rest)
    (hagree : Agree stop other ts rest ts' rest') :
    Gives (item other ts') (field, children) rest' := by
  rcases item_cases h with ⟨start, type, hcount, hcast, rfl, rfl⟩ |
    ⟨text, after, hints, span, inner, hcount, hname, hhints, hchildren, rfl⟩ |
    ⟨text, after, hints, more, hname, hhints, hmarked, hfree, hcolumn, rfl⟩
  · obtain ⟨start', hagree₁, hagree₂⟩ :=
      hagree.split (item_count_suffix hcount) (castPart_ok hcast).suffix
    obtain ⟨hkey, left, hcount', rfl⟩ := item_count_again hcount hagree₁
    rw [← hkey]
    exact item_rowCount hcount' (castPart_again hcast hagree₂)
  · have hshorter := item_open_shorter hname hhints
    have hinner := childList_suffix hchildren
    have hopen := (List.suffix_cons _ inner).trans (hintPart_suffix hhints)
    obtain ⟨inner', hagree₁, hagree₂⟩ :=
      hagree.split (hopen.trans (item_name_suffix hname)) hinner
    obtain ⟨after', span', hkey, hcount', hname', hhints'⟩ :=
      item_open_again hcount hname hhints hagree₁
    rw [← hkey]
    exact item_embedding hcount' hname' hhints' (childList_again hchildren hagree₂)
  · obtain ⟨marks, rfl, -, hunmarked⟩ := hintPart_ok hhints
    obtain rfl := hunmarked hmarked
    obtain ⟨after', hagree₁, hagree₂⟩ :=
      hagree.split (item_name_suffix hname) (columnPart_suffix hcolumn)
    obtain ⟨hkey, hname', token, _, -, hstart⟩ := item_name_again hname hagree₁
    rw [← hkey] at hcolumn
    refine item_column ?_ hname' (hintPart_again hhints hagree₁.tails) hmarked (hagree₁.free hfree)
      (columnPart_again hcolumn hagree₂)
    rw [hstart]
    exact countPart_of_free (hagree₁.free hfree)
termination_by (ts.length, 0)

theorem childList_again {ts rest ts' rest' : List Token} {nodes : List Node}
    (h : Gives (childList stop ts) nodes rest) (hagree : Agree stop other ts rest ts' rest') :
    Gives (childList other ts') nodes rest' := by
  rcases childList_cases h with ⟨span, rfl, rfl⟩ | ⟨hfree, span, hnodes⟩
  · obtain ⟨span', rfl, -⟩ := hagree.one
    exact childList_nil span' _
  · obtain ⟨_, hagree₁, hagree₂⟩ :=
      hagree.split (nodeList_ok hnodes).suffix (List.suffix_cons _ rest)
    obtain ⟨_, rfl, -⟩ := hagree₂.one
    exact childList_nodes (hagree.start.free hfree) (nodeList_again hnodes hagree₁)
termination_by (ts.length, 3)

theorem node_again {ts rest ts' rest' : List Token} {found : Node}
    (h : Gives (node stop ts) found rest) (hagree : Agree stop other ts rest ts' rest') :
    Gives (node other ts') found rest' := by
  rcases node_cases h with ⟨span, rfl, rfl⟩ |
    ⟨span, after, target, children, rfl, hitem, hembedded, rfl⟩ |
    ⟨field, children, hfree, hitem, rfl⟩
  · obtain ⟨span', rfl, -⟩ := hagree.one
    exact node_star span' _
  · obtain ⟨span', _, rfl, hagree₁⟩ := hagree.cons (item_suffix hitem)
    exact node_spread span' (item_again hitem hagree₁) hembedded
  · exact node_field (hagree.start.free hfree) (item_again hitem hagree)
termination_by (ts.length, 1)

theorem nodeList_again {ts rest ts' rest' : List Token} {nodes : List Node}
    (h : Gives (nodeList stop ts) nodes rest) (hagree : Agree stop other ts rest ts' rest') :
    Gives (nodeList other ts') nodes rest' := by
  rcases nodeList_cases h with ⟨found, hnode, rfl, hfree⟩ |
    ⟨found, span, more, others, hnode, hothers, rfl⟩
  · exact nodeList_last (node_again hnode hagree) (hagree.free hfree)
  · have hshorter := node_comma_shorter hnode
    have hmore := (nodeList_ok hothers).suffix
    obtain ⟨_, hagree₁, hagree₂⟩ :=
      hagree.split (node_ok hnode).suffix (hmore.trans (List.suffix_cons _ more))
    obtain ⟨_, _, rfl, hagree₃⟩ := hagree₂.cons hmore
    exact nodeList_more (node_again hnode hagree₁) (nodeList_again hothers hagree₃)
termination_by (ts.length, 2)

end

end GatewayQuery.Select.Parser
