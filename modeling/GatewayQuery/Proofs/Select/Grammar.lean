/-
The grammar of select expressions.

What an expression may look like is said here once, over the kinds of its tokens
and without a parser: each part of an expression is a relation between the kinds
that spell it and what they mean.  A name may be bare or in quotes unless the word
is one that the grammar itself knows: the row count, `inner` and `left` have to be
bare to be those words.

    query  :=  node (',' node)*
    node   :=  '*'  |  '...' item, which has to be an embedding  |  item
    item   :=  [name ':'] core
    core   :=  'count' '(' ')' cast
            |  name hints '(' [query] ')', unless that is a row count
            |  name steps cast ['.' function '(' ')' cast]
    cast   :=  ['::' name]
    hints  :=  ['!' name] ('!' 'inner' | '!' 'left')*
    steps  :=  ('->' name)* ['->>' name]

What follows from the grammar alone stands at the end: how a part begins, and that
no two tokens stand side by side that could be read as one.
-/
import GatewayQuery.Select.Node
import GatewayQuery.Select.Token
import Mathlib.Data.List.Chain

namespace GatewayQuery.Select.Grammar

open Token (Kind)

/-- A type after two colons, or nothing. -/
inductive Cast : List Kind → Option String → Prop
  | absent : Cast [] none
  | present {kind : Kind} {type : String} (hname : kind.name? = some type) :
      Cast [.doubleColon, kind] (some type)

/-- The steps of a JSON path.  The arrow with two heads can only come last. -/
inductive Steps : List Kind → JsonPath → Prop
  | done : Steps [] ⟨[], false⟩
  | text {kind : Kind} {key : String} (hname : kind.name? = some key) :
      Steps [.doubleArrow, kind] ⟨[key], true⟩
  | json {kind : Kind} {key : String} {kinds : List Kind} {path : JsonPath}
      (hname : kind.name? = some key) (hrest : Steps kinds path) :
      Steps (.arrow :: kind :: kinds) ⟨key :: path.keys, path.text⟩

/-- A function over the rows of a group and the cast of its result, or nothing. -/
inductive Summary : List Kind → Option Aggregate → Prop
  | absent : Summary [] none
  | present {kind : Kind} {function : AggregateFunction} {kinds : List Kind}
      {cast : Option String} (hname : kind.name? = some function.name) (hcast : Cast kinds cast) :
      Summary (.dot :: kind :: .leftParen :: .rightParen :: kinds) (some ⟨function, cast, false⟩)

/-- A key of the result before a colon, or nothing. -/
inductive Key : List Kind → Option String → Prop
  | absent : Key [] none
  | present {kind : Kind} {key : String} (hname : kind.name? = some key) :
      Key [kind, .colon] (some key)

/-- Kinds of join, and whether rows without a related row are left out. -/
inductive Joins : List Kind → Bool → Prop
  | done : Joins [] false
  | inner {kinds : List Kind} {innerJoin : Bool} (hrest : Joins kinds innerJoin) :
      Joins (.bang :: .bare "inner" :: kinds) true
  | left {kinds : List Kind} {innerJoin : Bool} (hrest : Joins kinds innerJoin) :
      Joins (.bang :: .bare "left" :: kinds) innerJoin

/-- At most one hint, and then the kinds of join. -/
inductive Hints : List Kind → Option String → Bool → Prop
  | absent {kinds : List Kind} {innerJoin : Bool} (hjoins : Joins kinds innerJoin) :
      Hints kinds none innerJoin
  | present {kind : Kind} {hint : String} {kinds : List Kind} {innerJoin : Bool}
      (hname : kind.name? = some hint) (hinner : kind ≠ .bare "inner")
      (hleft : kind ≠ .bare "left") (hjoins : Joins kinds innerJoin) :
      Hints (.bang :: kind :: kinds) (some hint) innerJoin

mutual

/-- A field with the nodes below it. -/
inductive Item : List Kind → Field → List Node → Prop
  | rowCount {key cast : List Kind} {label type : Option String}
      (hkey : Key key label) (hcast : Cast cast type) :
      Item (key ++ .bare "count" :: .leftParen :: .rightParen :: cast)
        (Field.rowCount label type) []
  | embedding {key hints kinds : List Kind} {name : Kind} {label hint : Option String}
      {relation : String} {innerJoin : Bool} {nodes : List Node}
      (hkey : Key key label) (hname : name.name? = some relation)
      (hhints : Hints hints hint innerJoin) (hchildren : Children kinds nodes)
      (hcount : ¬(name = .bare "count" ∧ hints = [] ∧ kinds = [])) :
      Item (key ++ name :: (hints ++ .leftParen :: (kinds ++ [.rightParen])))
        (Field.embedding relation label hint innerJoin) nodes
  | column {key steps cast summary : List Kind} {name : Kind} {label type : Option String}
      {column : String} {path : JsonPath} {aggregate : Option Aggregate}
      (hkey : Key key label) (hname : name.name? = some column) (hsteps : Steps steps path)
      (hcast : Cast cast type) (hsummary : Summary summary aggregate) :
      Item (key ++ name :: (steps ++ (cast ++ summary)))
        ⟨column, label, none, type, aggregate, if path.keys.isEmpty then none else some path,
          false, false⟩ []

/-- The nodes between the parentheses of an embedding. -/
inductive Children : List Kind → List Node → Prop
  | absent : Children [] []
  | present {kinds : List Kind} {nodes : List Node} (hnodes : Nodes kinds nodes) :
      Children kinds nodes

/-- A star, a field or a spread. -/
inductive One : List Kind → Node → Prop
  | star : One [.star] .star
  | field {kinds : List Kind} {field : Field} {children : List Node}
      (hitem : Item kinds field children) : One kinds (.field field children)
  | spread {kinds : List Kind} {target : Field} {children : List Node}
      (hitem : Item kinds target children) (hembedded : target.embedded = true) :
      One (.ellipsis :: kinds) (.spread target children)

/-- Nodes with commas between them. -/
inductive Nodes : List Kind → List Node → Prop
  | last {kinds : List Kind} {node : Node} (hnode : One kinds node) : Nodes kinds [node]
  | more {first kinds : List Kind} {node : Node} {nodes : List Node}
      (hnode : One first node) (hrest : Nodes kinds nodes) :
      Nodes (first ++ .comma :: kinds) (node :: nodes)

end

/-! ### How a part begins -/

theorem Cast.head {kinds : List Kind} {cast : Option String} (h : Cast kinds cast) :
    ∀ kind ∈ kinds.head?, kind = .doubleColon := by
  cases h <;> simp

theorem Steps.head {kinds : List Kind} {path : JsonPath} (h : Steps kinds path) :
    ∀ kind ∈ kinds.head?, kind = .arrow ∨ kind = .doubleArrow := by
  cases h <;> simp

theorem Summary.head {kinds : List Kind} {aggregate : Option Aggregate}
    (h : Summary kinds aggregate) : ∀ kind ∈ kinds.head?, kind = .dot := by
  cases h <;> simp

theorem Hints.head {kinds : List Kind} {hint : Option String} {innerJoin : Bool}
    (h : Hints kinds hint innerJoin) : ∀ kind ∈ kinds.head?, kind = .bang := by
  cases h with
  | absent hjoins => cases hjoins <;> simp
  | present => simp

theorem Item.head {kinds : List Kind} {field : Field} {children : List Node}
    (h : Item kinds field children) :
    ∃ kind rest text, kinds = kind :: rest ∧ kind.name? = some text := by
  cases h with
  | rowCount hkey hcast =>
    cases hkey with
    | absent => exact ⟨_, _, _, rfl, rfl⟩
    | present hkeyName => exact ⟨_, _, _, rfl, hkeyName⟩
  | embedding hkey hname hhints hchildren hcount =>
    cases hkey with
    | absent => exact ⟨_, _, _, rfl, hname⟩
    | present hkeyName => exact ⟨_, _, _, rfl, hkeyName⟩
  | column hkey hname hsteps hcast hsummary =>
    cases hkey with
    | absent => exact ⟨_, _, _, rfl, hname⟩
    | present hkeyName => exact ⟨_, _, _, rfl, hkeyName⟩

theorem One.head {kinds : List Kind} {node : Node} (h : One kinds node) :
    ∃ kind rest, kinds = kind :: rest ∧
      (kind = .star ∨ kind = .ellipsis ∨ kind.name?.isSome = true) := by
  cases h with
  | star => exact ⟨_, _, rfl, .inl rfl⟩
  | field hitem =>
    obtain ⟨kind, rest, text, hkinds, hname⟩ := hitem.head
    exact ⟨kind, rest, hkinds, .inr (.inr (by simp [hname]))⟩
  | spread hitem hembedded => exact ⟨_, _, rfl, .inr (.inl rfl)⟩

theorem Nodes.head {kinds : List Kind} {nodes : List Node} (h : Nodes kinds nodes) :
    ∃ kind rest, kinds = kind :: rest ∧
      (kind = .star ∨ kind = .ellipsis ∨ kind.name?.isSome = true) := by
  cases h with
  | last hnode => exact hnode.head
  | more hnode hrest =>
    obtain ⟨kind, rest, rfl, hkind⟩ := hnode.head
    exact ⟨kind, _, rfl, hkind⟩

theorem Children.head {kinds : List Kind} {nodes : List Node} (h : Children kinds nodes) :
    ∀ kind ∈ kinds.head?, kind ≠ .rightParen := by
  cases h with
  | absent => simp
  | present hnodes =>
    obtain ⟨kind, rest, rfl, hkind⟩ := hnodes.head
    rintro _ ⟨rfl⟩ rfl
    simp [Token.Kind.name?] at hkind

/-! ### No two tokens side by side could be read as one -/

/-- Two kinds whose spellings, one right behind the other, begin with a longer token. -/
def Fuses : Kind → Kind → Prop
  | .bare _, .bare _ => True
  | .colon, .colon | .colon, .doubleColon => True
  | .dot, .dot | .dot, .ellipsis => True
  | _, _ => False

/-- Kinds of which no two side by side fuse. -/
def Apart (kinds : List Kind) : Prop := kinds.IsChain fun a b => ¬Fuses a b

/-- Such kinds that may also stand behind a name. -/
structure Behind (kinds : List Kind) : Prop where
  apart : Apart kinds
  unnamed : ∀ kind ∈ kinds.head?, kind.name? = none

theorem apart_nil : Apart [] := List.IsChain.nil

theorem behind_nil : Behind [] := ⟨apart_nil, by simp⟩

theorem not_fuses_of_unnamed {name kind : Kind} (hname : name.name?.isSome = true)
    (hkind : kind.name? = none) : ¬Fuses name kind := by
  cases name <;> cases kind <;> simp_all [Kind.name?, Fuses]

theorem not_fuses_name {kind name : Kind} (hkind : kind.name? = none)
    (hname : name.name?.isSome = true) : ¬Fuses kind name := by
  cases kind <;> cases name <;> simp_all [Kind.name?, Fuses]

/-- Only names, a colon and a dot fuse with what follows them. -/
theorem Apart.symbol {kind : Kind} {rest : List Kind} (h : Apart rest)
    (hsymbol : kind ∉ [.colon, .dot]) (hunnamed : kind.name? = none) : Behind (kind :: rest) := by
  refine ⟨List.isChain_cons.mpr ⟨fun next hnext => ?_, h⟩, by simpa using hunnamed⟩
  cases kind <;> simp_all [Fuses, Kind.name?]

theorem Behind.name {name : Kind} {rest : List Kind} (h : Behind rest) {text : String}
    (hname : name.name? = some text) : Apart (name :: rest) :=
  List.isChain_cons.mpr
    ⟨fun next hnext => not_fuses_of_unnamed (by simp [hname]) (h.unnamed next hnext), h.apart⟩

/-- A symbol with a name behind it. -/
theorem Behind.marked {kind name : Kind} {rest : List Kind} (h : Behind rest) {text : String}
    (hname : name.name? = some text) (hunnamed : kind.name? = none) :
    Behind (kind :: name :: rest) := by
  refine ⟨List.isChain_cons.mpr ⟨?_, h.name hname⟩, by simpa using hunnamed⟩
  rintro _ ⟨rfl⟩
  exact not_fuses_name hunnamed (by simp [hname])

theorem Cast.behind {kinds rest : List Kind} {cast : Option String} (h : Cast kinds cast)
    (hrest : Behind rest) : Behind (kinds ++ rest) := by
  cases h with
  | absent => exact hrest
  | present hname => exact hrest.marked hname rfl

theorem Steps.behind {kinds rest : List Kind} {path : JsonPath} (h : Steps kinds path)
    (hrest : Behind rest) : Behind (kinds ++ rest) := by
  induction h with
  | done => exact hrest
  | text hname => exact hrest.marked hname rfl
  | json hname _ ih => exact ih.marked hname rfl

theorem Summary.behind {kinds rest : List Kind} {aggregate : Option Aggregate}
    (h : Summary kinds aggregate) (hrest : Behind rest) : Behind (kinds ++ rest) := by
  cases h with
  | absent => exact hrest
  | present hname hcast =>
    have hclosed : Behind (.rightParen :: (_ ++ rest)) :=
      (hcast.behind hrest).apart.symbol (by decide) rfl
    exact (hclosed.apart.symbol (by decide) rfl).marked hname rfl

theorem Joins.behind {kinds rest : List Kind} {innerJoin : Bool} (h : Joins kinds innerJoin)
    (hrest : Behind rest) : Behind (kinds ++ rest) := by
  induction h with
  | done => exact hrest
  | inner _ ih => exact ih.marked rfl rfl
  | left _ ih => exact ih.marked rfl rfl

theorem Hints.behind {kinds rest : List Kind} {hint : Option String} {innerJoin : Bool}
    (h : Hints kinds hint innerJoin) (hrest : Behind rest) : Behind (kinds ++ rest) := by
  cases h with
  | absent hjoins => exact hjoins.behind hrest
  | present hname _ _ hjoins => exact (hjoins.behind hrest).marked hname rfl

theorem Key.apart {kinds rest : List Kind} {name : Kind} {key : Option String} {text : String}
    (h : Key kinds key) (hname : name.name? = some text) (hrest : Behind rest) :
    Apart (kinds ++ name :: rest) := by
  cases h with
  | absent => exact hrest.name hname
  | present hkey =>
    have hcolon : Behind (.colon :: name :: rest) := hrest.marked hname rfl
    exact hcolon.name hkey

mutual

theorem Item.apart {rest : List Kind} : ∀ {kinds : List Kind} {field : Field}
    {children : List Node}, Item kinds field children → Behind rest → Apart (kinds ++ rest)
  | _, _, _, .rowCount hkey hcast, hrest => by
    have hclosed : Behind (.rightParen :: (_ ++ rest)) :=
      (hcast.behind hrest).apart.symbol (by decide) rfl
    have hopened : Behind (.leftParen :: .rightParen :: (_ ++ rest)) :=
      hclosed.apart.symbol (by decide) rfl
    simpa using hkey.apart (rfl : Kind.name? (.bare "count") = some "count") hopened
  | _, _, _, .embedding hkey hname hhints hchildren _, hrest => by
    have hclosed : Behind (.rightParen :: rest) := hrest.apart.symbol (by decide) rfl
    have hbelow := hchildren.apart hclosed
    have hopened : Behind (.leftParen :: (_ ++ .rightParen :: rest)) :=
      hbelow.symbol (by decide) rfl
    simpa using hkey.apart hname (hhints.behind hopened)
  | _, _, _, .column hkey hname hsteps hcast hsummary, hrest => by
    have htail := hsteps.behind (hcast.behind (hsummary.behind hrest))
    simpa using hkey.apart hname htail

theorem Children.apart {rest : List Kind} : ∀ {kinds : List Kind} {nodes : List Node},
    Children kinds nodes → Behind rest → Apart (kinds ++ rest)
  | _, _, .absent, hrest => hrest.apart
  | _, _, .present hnodes, hrest => hnodes.apart hrest

theorem One.apart {rest : List Kind} : ∀ {kinds : List Kind} {node : Node},
    One kinds node → Behind rest → Apart (kinds ++ rest)
  | _, _, .star, hrest => (hrest.apart.symbol (by decide) rfl).apart
  | _, _, .field hitem, hrest => hitem.apart hrest
  | _, _, .spread hitem _, hrest => ((hitem.apart hrest).symbol (by decide) rfl).apart

theorem Nodes.apart {rest : List Kind} : ∀ {kinds : List Kind} {nodes : List Node},
    Nodes kinds nodes → Behind rest → Apart (kinds ++ rest)
  | _, _, .last hnode, hrest => hnode.apart hrest
  | _, _, .more hnode hmore, hrest => by
    have hcomma : Behind (.comma :: (_ ++ rest)) :=
      (hmore.apart hrest).symbol (by decide) rfl
    simpa using hnode.apart hcomma

end

end GatewayQuery.Select.Grammar
