/-
What the steps of the parser come to.

A step that succeeds gives a value and leaves tokens; `Gives` says so without the
proof that fewer are left.  For the steps that the others are made of it is stated
here when they succeed and with what, in both directions, and this is the only
place that looks into them.
-/
import GatewayQuery.Select.Parser

namespace GatewayQuery.Select

theorem AggregateFunction.name_of_ofName? {text : String} {function : AggregateFunction}
    (h : ofName? text = some function) : function.name = text := by
  unfold ofName? at h
  split at h <;> cases h <;> rfl

namespace Parser

open Token (Kind)

variable {stop : Stop}

/-- The step succeeds with a value and leaves some tokens. -/
def Gives {α : Type} {P : List Token → Prop}
    (result : Except Refusal (α × { rest : List Token // P rest })) (value : α)
    (rest : List Token) : Prop :=
  ∃ h : P rest, result = .ok (value, ⟨rest, h⟩)

theorem gives_of_val {α : Type} {P : List Token → Prop} {value : α} {rest : List Token}
    {result : Except Refusal (α × { rest : List Token // P rest })}
    {left : { rest : List Token // P rest }} (h : result = .ok (value, left))
    (hrest : left.val = rest) : Gives result value rest := by
  subst hrest
  exact ⟨left.property, h⟩

/-! ### Single tokens -/

theorem name_ok {expected : Expectation} {ts rest : List Token} {text : String}
    (h : Gives (name stop expected ts) text rest) :
    ∃ token, ts = token :: rest ∧ token.kind.name? = some text := by
  obtain ⟨hlt, h⟩ := h
  unfold name at h
  split at h
  · cases h
  · rename_i token after
    split at h
    · rename_i found hname
      cases h
      exact ⟨token, rfl, hname⟩
    · cases h

theorem name_of {expected : Expectation} {token : Token} {rest : List Token} {text : String}
    (h : token.kind.name? = some text) :
    Gives (name stop expected (token :: rest)) text rest := by
  refine ⟨Nat.lt_succ_self _, ?_⟩
  simp only [name, h]

theorem symbol_ok {kind : Kind} {expected : Expectation} {ts rest : List Token}
    (h : Gives (symbol stop kind expected ts) () rest) :
    ∃ token, ts = token :: rest ∧ token.kind = kind := by
  obtain ⟨hlt, h⟩ := h
  unfold symbol at h
  split at h
  · cases h
  · rename_i token after
    split at h
    · rename_i hkind
      cases h
      exact ⟨token, rfl, hkind⟩
    · cases h

/-! ### Words after exclamation marks -/

/-- The tokens do not begin with one of the kinds. -/
def Free (kinds : List Kind) (ts : List Token) : Prop :=
  ∀ token ∈ ts.head?, token.kind ∉ kinds

@[simp] theorem free_nil (kinds : List Kind) : Free kinds [] := by simp [Free]

@[simp] theorem free_cons {kinds : List Kind} {token : Token} {ts : List Token} :
    Free kinds (token :: ts) ↔ token.kind ∉ kinds := by simp [Free]

theorem Free.mono {small large : List Kind} {ts : List Token} (h : Free large ts)
    (hsub : small ⊆ large) : Free small ts :=
  fun token htoken hmem => h token htoken (hsub hmem)

theorem free_singleton {kind : Kind} {ts : List Token}
    (h : ∀ span rest, ts ≠ ⟨kind, span⟩ :: rest) : Free [kind] ts := by
  rintro ⟨_, span⟩ htoken hmem
  obtain rfl := List.mem_singleton.mp hmem
  obtain ⟨rest, hrest⟩ := List.head?_eq_some_iff.mp htoken
  exact h span rest hrest

theorem Free.cons {kind : Kind} {kinds : List Kind} {ts : List Token} (h : Free [kind] ts)
    (hkinds : Free kinds ts) : Free (kind :: kinds) ts := by
  intro token htoken hmem
  rcases List.mem_cons.mp hmem with hkind | hmem
  · exact h token htoken (List.mem_singleton.mpr hkind)
  · exact hkinds token htoken hmem

@[simp] theorem isWord_iff {kind : Kind} {word : String} :
    kind.isWord word = true ↔ kind = .bare word := by
  cases kind <;> simp [Kind.isWord]

/-- What one more word after an exclamation mark can do. -/
theorem Hints.add_cases {hints next : Hints} {kind : Kind} {word : String}
    (h : hints.add kind word = some next) :
    (kind = .bare "inner" ∧
      next = { hints with innerJoin := true, joined := true, marked := true }) ∨
    (kind = .bare "left" ∧ next = { hints with joined := true, marked := true }) ∨
    (kind ≠ .bare "inner" ∧ kind ≠ .bare "left" ∧ hints.hint = Option.none ∧
      hints.joined = false ∧ next = { hints with hint := some word, marked := true }) := by
  unfold Hints.add at h
  split at h
  · rename_i hinner
    cases h
    exact .inl ⟨isWord_iff.mp hinner, rfl⟩
  · rename_i hinner
    split at h
    · rename_i hleft
      cases h
      exact .inr (.inl ⟨isWord_iff.mp hleft, rfl⟩)
    · rename_i hleft
      split at h
      · rename_i hfree
        cases h
        simp only [Bool.and_eq_true, Option.isNone_iff_eq_none, Bool.not_eq_true'] at hfree
        exact .inr (.inr ⟨mt isWord_iff.mpr hinner, mt isWord_iff.mpr hleft, hfree.1, hfree.2, rfl⟩)
      · cases h

/-- What taking the words after exclamation marks can come to: nothing, or one word and more. -/
theorem hintPart_cases {hints out : Hints} {ts rest : List Token}
    (h : Gives (hintPart stop hints ts) out rest) :
    (ts = rest ∧ out = hints ∧ Free [.bang] rest) ∨
      ∃ span token after word next, ts = ⟨.bang, span⟩ :: token :: after ∧
        token.kind.name? = some word ∧ hints.add token.kind word = some next ∧
        Gives (hintPart stop next after) out rest := by
  obtain ⟨hle, h⟩ := h
  unfold hintPart at h
  split at h
  · cases h
  · rename_i span token after
    split at h
    · cases h
    · rename_i word hname
      split at h
      · cases h
      · rename_i next hadd
        split at h
        · cases h
        · rename_i last left hnext
          cases h
          exact .inr ⟨span, token, after, word, next, rfl, hname, hadd, left.property, hnext⟩
  · rename_i hsingle hpair
    cases h
    refine .inl ⟨rfl, rfl, free_singleton ?_⟩
    rintro span (_ | ⟨token, after⟩) rfl
    · exact hsingle span rfl
    · exact hpair span token after rfl

theorem hintPart_free {hints : Hints} {rest : List Token} (h : Free [.bang] rest) :
    Gives (hintPart stop hints rest) hints rest := by
  unfold hintPart
  split
  · simp at h
  · simp at h
  · exact ⟨Nat.le_refl _, rfl⟩

/-- One word after an exclamation mark is taken if it can be added. -/
theorem hintPart_cons {hints next out : Hints} {span : Text.Span} {token : Token} {word : String}
    {ts rest : List Token} (hname : token.kind.name? = some word)
    (hadd : hints.add token.kind word = some next) (h : Gives (hintPart stop next ts) out rest) :
    Gives (hintPart stop hints (⟨.bang, span⟩ :: token :: ts)) out rest := by
  obtain ⟨hle, h⟩ := h
  refine ⟨by simp only [List.length_cons]; omega, ?_⟩
  rw [hintPart]
  simp only [hname, hadd, h]

/-! ### Casts, JSON paths and aggregates -/

theorem castPart_cases {ts rest : List Token} {cast : Option String}
    (h : Gives (castPart stop ts) cast rest) :
    (ts = rest ∧ cast = none ∧ Free [.doubleColon] rest) ∨
      ∃ span token type, ts = ⟨.doubleColon, span⟩ :: token :: rest ∧
        token.kind.name? = some type ∧ cast = some type := by
  obtain ⟨hle, h⟩ := h
  unfold castPart at h
  split at h
  · rename_i span after
    split at h
    · cases h
    · rename_i type left hname
      cases h
      obtain ⟨token, hafter, hkind⟩ := name_ok ⟨left.property, hname⟩
      exact .inr ⟨span, token, type, congrArg _ hafter, hkind, rfl⟩
  · rename_i hcolons
    cases h
    exact .inl ⟨rfl, rfl, free_singleton hcolons⟩

theorem castPart_free {rest : List Token} (h : Free [.doubleColon] rest) :
    Gives (castPart stop rest) none rest := by
  unfold castPart
  split
  · simp at h
  · exact ⟨Nat.le_refl _, rfl⟩

theorem castPart_cons {span : Text.Span} {token : Token} {rest : List Token} {type : String}
    (h : token.kind.name? = some type) :
    Gives (castPart stop (⟨.doubleColon, span⟩ :: token :: rest)) (some type) rest := by
  obtain ⟨hlt, hname⟩ : Gives (name stop .castType (token :: rest)) type rest := name_of h
  refine ⟨by simp only [List.length_cons]; omega, ?_⟩
  simp only [castPart, hname]

theorem pathPart_cases {ts rest : List Token} {path : JsonPath}
    (h : Gives (pathPart stop ts) path rest) :
    (ts = rest ∧ path = ⟨[], false⟩ ∧ Free [.arrow, .doubleArrow] rest) ∨
    (∃ span token key after more, ts = ⟨.arrow, span⟩ :: token :: after ∧
      token.kind.name? = some key ∧ Gives (pathPart stop after) more rest ∧
      path = ⟨key :: more.keys, more.text⟩) ∨
    (∃ span token key, ts = ⟨.doubleArrow, span⟩ :: token :: rest ∧
      token.kind.name? = some key ∧ path = ⟨[key], true⟩) := by
  obtain ⟨hle, h⟩ := h
  unfold pathPart at h
  split at h
  · rename_i span after
    split at h
    · cases h
    · rename_i key left hname
      split at h
      · cases h
      · rename_i more last hmore
        cases h
        obtain ⟨token, hafter, hkind⟩ := name_ok ⟨left.property, hname⟩
        exact .inr (.inl ⟨span, token, key, left.val, more, congrArg _ hafter, hkind,
          ⟨last.property, hmore⟩, rfl⟩)
  · rename_i span after
    split at h
    · cases h
    · rename_i key left hname
      cases h
      obtain ⟨token, hafter, hkind⟩ := name_ok ⟨left.property, hname⟩
      exact .inr (.inr ⟨span, token, key, congrArg _ hafter, hkind, rfl⟩)
  · rename_i harrow hdoubleArrow
    cases h
    exact .inl ⟨rfl, rfl, (free_singleton harrow).cons (free_singleton hdoubleArrow)⟩

theorem pathPart_free {rest : List Token} (h : Free [.arrow, .doubleArrow] rest) :
    Gives (pathPart stop rest) ⟨[], false⟩ rest := by
  unfold pathPart
  split
  · simp at h
  · simp at h
  · exact ⟨Nat.le_refl _, rfl⟩

theorem pathPart_arrow {span : Text.Span} {token : Token} {after rest : List Token} {key : String}
    {more : JsonPath} (h : token.kind.name? = some key)
    (hmore : Gives (pathPart stop after) more rest) :
    Gives (pathPart stop (⟨.arrow, span⟩ :: token :: after)) ⟨key :: more.keys, more.text⟩
      rest := by
  obtain ⟨hlt, hname⟩ : Gives (name stop .jsonKey (token :: after)) key after := name_of h
  obtain ⟨hle, hmore⟩ := hmore
  refine ⟨by simp only [List.length_cons]; omega, ?_⟩
  rw [pathPart]
  simp only [hname, hmore]

theorem pathPart_doubleArrow {span : Text.Span} {token : Token} {rest : List Token} {key : String}
    (h : token.kind.name? = some key) :
    Gives (pathPart stop (⟨.doubleArrow, span⟩ :: token :: rest)) ⟨[key], true⟩ rest := by
  obtain ⟨hlt, hname⟩ : Gives (name stop .jsonKey (token :: rest)) key rest := name_of h
  refine ⟨by simp only [List.length_cons]; omega, ?_⟩
  rw [pathPart]
  simp only [hname]

theorem aggregateName_ok {ts rest : List Token} {function : AggregateFunction}
    (h : Gives (aggregateName stop ts) function rest) :
    ∃ token, ts = token :: rest ∧ token.kind.name? = some function.name := by
  obtain ⟨hlt, h⟩ := h
  unfold aggregateName at h
  split at h
  · cases h
  · rename_i token after
    split at h
    · cases h
    · rename_i text hname
      split at h
      · cases h
      · rename_i found hfunction
        cases h
        exact ⟨token, rfl, by rw [hname, AggregateFunction.name_of_ofName? hfunction]⟩

theorem aggregateName_of {token : Token} {rest : List Token} {function : AggregateFunction}
    (h : token.kind.name? = some function.name) :
    Gives (aggregateName stop (token :: rest)) function rest := by
  refine ⟨Nat.lt_succ_self _, ?_⟩
  simp only [aggregateName, h, AggregateFunction.ofName?_name]

theorem aggregatePart_cases {ts rest : List Token} {aggregate : Option Aggregate}
    (h : Gives (aggregatePart stop ts) aggregate rest) :
    (ts = rest ∧ aggregate = none ∧ Free [.dot] rest) ∨
      ∃ dot token opened closed after function cast,
        ts = ⟨.dot, dot⟩ :: token :: ⟨.leftParen, opened⟩ :: ⟨.rightParen, closed⟩ :: after ∧
        token.kind.name? = some (AggregateFunction.name function) ∧
        Gives (castPart stop after) cast rest ∧ aggregate = some ⟨function, cast, false⟩ := by
  obtain ⟨hle, h⟩ := h
  unfold aggregatePart at h
  split at h
  · rename_i dot after
    split at h
    · cases h
    · rename_i function afterName hfunction
      split at h
      · cases h
      · rename_i opened hopened
        split at h
        · cases h
        · rename_i closed hclosed
          split at h
          · cases h
          · rename_i cast left hcast
            cases h
            obtain ⟨token, hafter, hname⟩ := aggregateName_ok ⟨afterName.property, hfunction⟩
            obtain ⟨⟨_, open'⟩, hleft, rfl⟩ := symbol_ok ⟨opened.property, hopened⟩
            obtain ⟨⟨_, close'⟩, hright, rfl⟩ := symbol_ok ⟨closed.property, hclosed⟩
            exact .inr ⟨dot, token, open', close', closed.val, function, cast,
              by simp [hafter, hleft, hright], hname, ⟨left.property, hcast⟩, rfl⟩
  · rename_i hdot
    cases h
    exact .inl ⟨rfl, rfl, free_singleton hdot⟩

theorem aggregatePart_free {rest : List Token} (h : Free [.dot] rest) :
    Gives (aggregatePart stop rest) none rest := by
  unfold aggregatePart
  split
  · simp at h
  · exact ⟨Nat.le_refl _, rfl⟩

theorem aggregatePart_cons {dot opened closed : Text.Span} {token : Token}
    {after rest : List Token} {function : AggregateFunction} {cast : Option String}
    (hname : token.kind.name? = some function.name)
    (hcast : Gives (castPart stop after) cast rest) :
    Gives (aggregatePart stop
        (⟨.dot, dot⟩ :: token :: ⟨.leftParen, opened⟩ :: ⟨.rightParen, closed⟩ :: after))
      (some ⟨function, cast, false⟩) rest := by
  obtain ⟨hle, hcast⟩ := hcast
  refine ⟨by simp only [List.length_cons]; omega, ?_⟩
  simp only [aggregatePart, aggregateName, hname, AggregateFunction.ofName?_name, symbol, if_true,
    hcast]

/-- What follows the name of a column is read part by part. -/
theorem columnPart_iff {key : Option String} {column : String} {ts rest : List Token}
    {field : Field} :
    Gives (columnPart stop key column ts) field rest ↔
      ∃ path afterPath cast afterCast aggregate, Gives (pathPart stop ts) path afterPath ∧
        Gives (castPart stop afterPath) cast afterCast ∧
        Gives (aggregatePart stop afterCast) aggregate rest ∧
        field = ⟨column, key, none, cast, aggregate,
          if path.keys.isEmpty then none else some path, false, false⟩ := by
  constructor
  · rintro ⟨hle, h⟩
    unfold columnPart at h
    split at h
    · cases h
    · rename_i path afterPath hpath
      split at h
      · cases h
      · rename_i cast afterCast hcast
        split at h
        · cases h
        · rename_i aggregate left haggregate
          cases h
          exact ⟨path, afterPath.val, cast, afterCast.val, aggregate, ⟨afterPath.property, hpath⟩,
            ⟨afterCast.property, hcast⟩, ⟨left.property, haggregate⟩, rfl⟩
  · rintro ⟨path, afterPath, cast, afterCast, aggregate, ⟨hafterPath, hpath⟩,
      ⟨hafterCast, hcast⟩, ⟨hrest, haggregate⟩, rfl⟩
    refine ⟨by omega, ?_⟩
    simp only [columnPart, hpath, hcast, haggregate]

/-! ### Keys and row counts -/

/-- A name in front of a colon is a key, and nothing else is. -/
theorem keyPart_cases (ts : List Token) :
    (∃ token span rest key, ts = token :: ⟨.colon, span⟩ :: rest ∧ token.kind.name? = some key ∧
      (keyPart ts).1 = some key ∧ (keyPart ts).2.val = rest) ∨
    ((keyPart ts).1 = none ∧ (keyPart ts).2.val = ts ∧
      ∀ token rest, ts = token :: rest → token.kind.name? = none ∨ Free [.colon] rest) := by
  unfold keyPart
  split
  · rename_i token span rest
    split
    · rename_i key hname
      exact .inl ⟨token, span, rest, key, rfl, hname, rfl, rfl⟩
    · rename_i hname
      refine .inr ⟨rfl, rfl, ?_⟩
      rintro _ _ ⟨⟩
      exact .inl hname
  · rename_i hcolon
    refine .inr ⟨rfl, rfl, ?_⟩
    rintro token rest rfl
    refine .inr (free_singleton ?_)
    rintro span more rfl
    exact hcolon token span more rfl

theorem keyPart_colon {kind : Kind} {label span : Text.Span} {rest : List Token} {key : String}
    (h : kind.name? = some key) :
    (keyPart (⟨kind, label⟩ :: ⟨.colon, span⟩ :: rest)).1 = some key ∧
      (keyPart (⟨kind, label⟩ :: ⟨.colon, span⟩ :: rest)).2.val = rest := by
  simp only [keyPart, h]
  exact ⟨trivial, trivial⟩

theorem keyPart_free {ts : List Token}
    (h : ∀ token rest, ts = token :: rest → token.kind.name? = none ∨ Free [.colon] rest) :
    (keyPart ts).1 = none ∧ (keyPart ts).2.val = ts := by
  rcases keyPart_cases ts with ⟨token, span, rest, key, rfl, hname, -, -⟩ | ⟨hkey, hrest, -⟩
  · rcases h token _ rfl with hnone | hfree
    · rw [hname] at hnone
      cases hnone
    · simp at hfree
  · exact ⟨hkey, hrest⟩

theorem countPart_some {ts : List Token} {left : Rest ts} (h : countPart ts = some left) :
    ∃ word opened closed, ts = ⟨.bare "count", word⟩ :: ⟨.leftParen, opened⟩ ::
      ⟨.rightParen, closed⟩ :: left.val := by
  unfold countPart at h
  split at h
  · rename_i word opened closed after
    cases h
    exact ⟨word, opened, closed, rfl⟩
  · cases h

theorem countPart_none {ts : List Token} (h : countPart ts = none) (word opened closed : Text.Span)
    (rest : List Token) :
    ts ≠ ⟨.bare "count", word⟩ :: ⟨.leftParen, opened⟩ :: ⟨.rightParen, closed⟩ :: rest := by
  rintro rfl
  cases h

theorem countPart_of {ts rest : List Token} {word opened closed : Text.Span}
    (h : ts = ⟨.bare "count", word⟩ :: ⟨.leftParen, opened⟩ :: ⟨.rightParen, closed⟩ :: rest) :
    ∃ left, countPart ts = some left ∧ left.val = rest := by
  subst h
  exact ⟨_, rfl, rfl⟩

theorem countPart_eq_none {ts : List Token}
    (h : ∀ word opened closed rest,
      ts ≠ ⟨.bare "count", word⟩ :: ⟨.leftParen, opened⟩ :: ⟨.rightParen, closed⟩ :: rest) :
    countPart ts = none := by
  unfold countPart
  split
  · rename_i word opened closed rest
    exact absurd rfl (h word opened closed rest)
  · rfl

/-! ### Items -/

/-- The value of a step is changed and its tokens are seen as the rest of more tokens. -/
theorem shorten_map_ok {α β : Type} {small large rest : List Token} {value : β}
    {hlt : small.length < large.length} {result : Except Refusal (α × Tail small)}
    {change : α × Tail small → β × Tail small}
    (h : Gives (shorten hlt (result.map change)) value rest) :
    ∃ found left, result = .ok (found, left) ∧ (change (found, left)).1 = value ∧
      (change (found, left)).2.val = rest := by
  obtain ⟨hrest, h⟩ := h
  cases result with
  | error error => cases h
  | ok pair =>
    obtain ⟨found, left⟩ := pair
    cases h
    exact ⟨found, left, rfl, rfl, rfl⟩

/-- An item is read as a row count, as an embedding or as a column. -/
theorem item_cases {ts rest : List Token} {field : Field} {children : List Node}
    (h : Gives (item stop ts) (field, children) rest) :
    (∃ start cast, countPart (keyPart ts).2.val = some start ∧
      Gives (castPart stop start.val) cast rest ∧ field = Field.rowCount (keyPart ts).1 cast ∧
      children = []) ∨
    (∃ text after hints span inner, countPart (keyPart ts).2.val = none ∧
      Gives (name stop .fieldName (keyPart ts).2.val) text after ∧
      Gives (hintPart stop .none after) hints (⟨.leftParen, span⟩ :: inner) ∧
      Gives (childList stop inner) children rest ∧
      field = Field.embedding text (keyPart ts).1 hints.hint hints.innerJoin) ∨
    (∃ text after hints more, Gives (name stop .fieldName (keyPart ts).2.val) text after ∧
      Gives (hintPart stop .none after) hints more ∧ hints.marked = false ∧
      Free [.leftParen] more ∧ Gives (columnPart stop (keyPart ts).1 text more) field rest ∧
      children = []) := by
  obtain ⟨hlt, h⟩ := h
  unfold item at h
  split at h
  · rename_i start hcount
    obtain ⟨cast, left, hcast, hfield, hrest⟩ := shorten_map_ok ⟨hlt, h⟩
    cases hfield
    cases hrest
    exact .inl ⟨start, cast, hcount, ⟨left.property, hcast⟩, rfl, rfl⟩
  · rename_i hcount
    split at h
    · cases h
    · rename_i text after hname
      split at h
      · cases h
      · rename_i hints left hhints
        split at h
        · rename_i span inner hinner
          dsimp only at h
          split at h
          · cases h
          · rename_i nodes last hnodes
            cases h
            exact .inr (.inl ⟨text, after.val, hints, span, inner, hcount,
              ⟨after.property, hname⟩, gives_of_val hhints hinner, ⟨last.property, hnodes⟩, rfl⟩)
        · rename_i hparen
          split at h
          · cases h
          · rename_i hmarked
            obtain ⟨found, last, hcolumn, hfield, hrest⟩ := shorten_map_ok ⟨hlt, h⟩
            cases hfield
            cases hrest
            exact .inr (.inr ⟨text, after.val, hints, left.val, ⟨after.property, hname⟩,
              ⟨left.property, hhints⟩, by simpa using hmarked, free_singleton hparen,
              ⟨last.property, hcolumn⟩, rfl⟩)

/-- The nodes of an embedding are fewer tokens than the item. -/
theorem item_open_shorter {ts after inner : List Token} {text : String} {hints : Hints}
    {span : Text.Span} (hname : Gives (name stop .fieldName (keyPart ts).2.val) text after)
    (hhints : Gives (hintPart stop .none after) hints (⟨.leftParen, span⟩ :: inner)) :
    inner.length < ts.length := by
  have hkey := (keyPart ts).2.property
  obtain ⟨hafter, -⟩ := hname
  obtain ⟨hinner, -⟩ := hhints
  rw [List.length_cons] at hinner
  omega

theorem item_rowCount {ts rest : List Token} {start : Rest (keyPart ts).2.val}
    {cast : Option String} (hcount : countPart (keyPart ts).2.val = some start)
    (hcast : Gives (castPart stop start.val) cast rest) :
    Gives (item stop ts) (Field.rowCount (keyPart ts).1 cast, []) rest := by
  obtain ⟨hle, hcast⟩ := hcast
  have hstart := start.property
  have hkey := (keyPart ts).2.property
  refine ⟨by omega, ?_⟩
  rw [item]
  simp only [hcount, hcast, Except.map, shorten]

theorem item_embedding {ts after inner rest : List Token} {text : String} {hints : Hints}
    {span : Text.Span} {children : List Node}
    (hcount : countPart (keyPart ts).2.val = none)
    (hname : Gives (name stop .fieldName (keyPart ts).2.val) text after)
    (hhints : Gives (hintPart stop .none after) hints (⟨.leftParen, span⟩ :: inner))
    (hchildren : Gives (childList stop inner) children rest) :
    Gives (item stop ts)
      (Field.embedding text (keyPart ts).1 hints.hint hints.innerJoin, children) rest := by
  obtain ⟨hafter, hname⟩ := hname
  obtain ⟨hinner, hhints⟩ := hhints
  obtain ⟨hrest, hchildren⟩ := hchildren
  have hkey := (keyPart ts).2.property
  refine ⟨by simp only [List.length_cons] at hinner; omega, ?_⟩
  rw [item]
  simp only [hcount, hname, hhints, hchildren]

theorem item_column {ts after more rest : List Token} {text : String} {hints : Hints}
    {field : Field} (hcount : countPart (keyPart ts).2.val = none)
    (hname : Gives (name stop .fieldName (keyPart ts).2.val) text after)
    (hhints : Gives (hintPart stop .none after) hints more) (hmarked : hints.marked = false)
    (hfree : Free [.leftParen] more)
    (hcolumn : Gives (columnPart stop (keyPart ts).1 text more) field rest) :
    Gives (item stop ts) (field, []) rest := by
  obtain ⟨hafter, hname⟩ := hname
  obtain ⟨hmore, hhints⟩ := hhints
  obtain ⟨hrest, hcolumn⟩ := hcolumn
  have hkey := (keyPart ts).2.property
  refine ⟨by omega, ?_⟩
  rw [item]
  simp only [hcount, hname, hhints, hcolumn]
  split
  · simp at hfree
  · simp [hmarked, Except.map, shorten]

/-! ### Nodes -/

theorem node_cases {ts rest : List Token} {found : Node} (h : Gives (node stop ts) found rest) :
    (∃ span, ts = ⟨.star, span⟩ :: rest ∧ found = .star) ∨
    (∃ span after target children, ts = ⟨.ellipsis, span⟩ :: after ∧
      Gives (item stop after) (target, children) rest ∧ target.embedded = true ∧
      found = .spread target children) ∨
    (∃ field children, Free [.star, .ellipsis] ts ∧ Gives (item stop ts) (field, children) rest ∧
      found = .field field children) := by
  obtain ⟨hlt, h⟩ := h
  unfold node at h
  split at h
  · rename_i span after
    cases h
    exact .inl ⟨span, rfl, rfl⟩
  · rename_i span after
    split at h
    · cases h
    · rename_i target children left hitem
      split at h
      · rename_i hembedded
        cases h
        exact .inr (.inl ⟨span, after, target, children, rfl, ⟨left.property, hitem⟩, hembedded,
          rfl⟩)
      · cases h
  · rename_i hstar hellipsis
    split at h
    · cases h
    · rename_i field children left hitem
      cases h
      exact .inr (.inr ⟨field, children,
        (free_singleton hstar).cons (free_singleton hellipsis), ⟨hlt, hitem⟩, rfl⟩)

theorem node_comma_shorter {ts more : List Token} {found : Node} {span : Text.Span}
    (h : Gives (node stop ts) found (⟨.comma, span⟩ :: more)) : more.length < ts.length := by
  obtain ⟨hlt, -⟩ := h
  rw [List.length_cons] at hlt
  omega

theorem nodeList_cases {ts rest : List Token} {nodes : List Node}
    (h : Gives (nodeList stop ts) nodes rest) :
    (∃ found, Gives (node stop ts) found rest ∧ nodes = [found] ∧ Free [.comma] rest) ∨
    (∃ found span more others, Gives (node stop ts) found (⟨.comma, span⟩ :: more) ∧
      Gives (nodeList stop more) others rest ∧ nodes = found :: others) := by
  obtain ⟨hlt, h⟩ := h
  unfold nodeList at h
  split at h
  · cases h
  · rename_i found left hnode
    split at h
    · rename_i span more hmore
      dsimp only at h
      split at h
      · cases h
      · rename_i others last hothers
        cases h
        exact .inr ⟨found, span, more, others, gives_of_val hnode hmore,
          ⟨last.property, hothers⟩, rfl⟩
    · rename_i hcomma
      cases h
      exact .inl ⟨found, ⟨hlt, hnode⟩, rfl, free_singleton hcomma⟩

theorem childList_cases {ts rest : List Token} {nodes : List Node}
    (h : Gives (childList stop ts) nodes rest) :
    (∃ span, ts = ⟨.rightParen, span⟩ :: rest ∧ nodes = []) ∨
    (Free [.rightParen] ts ∧
      ∃ span, Gives (nodeList stop ts) nodes (⟨.rightParen, span⟩ :: rest)) := by
  obtain ⟨hlt, h⟩ := h
  unfold childList at h
  split at h
  · rename_i span after
    cases h
    exact .inl ⟨span, rfl, rfl⟩
  · rename_i hparen
    split at h
    · cases h
    · rename_i children left hnodes
      split at h
      · cases h
      · rename_i last hclose
        cases h
        obtain ⟨⟨kind, span⟩, hleft, rfl⟩ := symbol_ok ⟨last.property, hclose⟩
        exact .inr ⟨free_singleton hparen, span, gives_of_val hnodes hleft⟩

theorem node_star (span : Text.Span) (rest : List Token) :
    Gives (node stop (⟨.star, span⟩ :: rest)) .star rest := by
  refine ⟨Nat.lt_succ_self _, ?_⟩
  rw [node]

theorem node_field {ts rest : List Token} {field : Field} {children : List Node}
    (hfree : Free [.star, .ellipsis] ts) (hitem : Gives (item stop ts) (field, children) rest) :
    Gives (node stop ts) (.field field children) rest := by
  obtain ⟨hlt, hitem⟩ := hitem
  unfold node
  split
  · simp at hfree
  · simp at hfree
  · refine ⟨hlt, ?_⟩
    simp only [hitem]

theorem node_spread {ts rest : List Token} {target : Field} {children : List Node}
    (span : Text.Span) (hitem : Gives (item stop ts) (target, children) rest)
    (hembedded : target.embedded = true) :
    Gives (node stop (⟨.ellipsis, span⟩ :: ts)) (.spread target children) rest := by
  obtain ⟨hlt, hitem⟩ := hitem
  refine ⟨Nat.lt_succ_of_lt hlt, ?_⟩
  rw [node]
  simp only [hitem, hembedded, if_true]

theorem nodeList_last {ts rest : List Token} {found : Node}
    (hnode : Gives (node stop ts) found rest) (hfree : Free [.comma] rest) :
    Gives (nodeList stop ts) [found] rest := by
  obtain ⟨hlt, hnode⟩ := hnode
  refine ⟨hlt, ?_⟩
  rw [nodeList]
  simp only [hnode]
  split
  · simp at hfree
  · rfl

theorem nodeList_more {ts more rest : List Token} {found : Node} {nodes : List Node}
    {span : Text.Span} (hnode : Gives (node stop ts) found (⟨.comma, span⟩ :: more))
    (hnodes : Gives (nodeList stop more) nodes rest) :
    Gives (nodeList stop ts) (found :: nodes) rest := by
  obtain ⟨hlt, hnode⟩ := hnode
  obtain ⟨hlt', hnodes⟩ := hnodes
  refine ⟨by simp only [List.length_cons] at hlt; omega, ?_⟩
  rw [nodeList]
  simp only [hnode, hnodes]

theorem childList_nil (span : Text.Span) (rest : List Token) :
    Gives (childList stop (⟨.rightParen, span⟩ :: rest)) [] rest := by
  refine ⟨Nat.lt_succ_self _, ?_⟩
  rw [childList]

theorem childList_nodes {ts rest : List Token} {nodes : List Node} {span : Text.Span}
    (hfree : Free [.rightParen] ts)
    (hnodes : Gives (nodeList stop ts) nodes (⟨.rightParen, span⟩ :: rest)) :
    Gives (childList stop ts) nodes rest := by
  obtain ⟨hlt, hnodes⟩ := hnodes
  unfold childList
  split
  · simp at hfree
  · refine ⟨by simp only [List.length_cons] at hlt; omega, ?_⟩
    simp only [hnodes, symbol, if_true]

end Parser

end GatewayQuery.Select
