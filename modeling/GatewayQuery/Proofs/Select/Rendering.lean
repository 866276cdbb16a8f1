/-
Printing a tree and reading it back.

The text of a well-formed tree is the spellings of kinds from which the grammar derives
the tree, so the parser gives the tree back.  Printing decides between a bare name and
one in quotes in three ways: a name that is no word is quoted, a hint that is a kind of
join is quoted, and so is the name of an empty embedding that would count rows.  These
are the places where the grammar tells a bare word from a name.
-/
import GatewayQuery.Proofs.Select.Recognition
import GatewayQuery.Proofs.Select.WellFormed
import GatewayQuery.Select.Printer

namespace GatewayQuery.Select

open Token (Kind)
open Grammar

/-- The text is the spellings of the kinds, one right behind the other. -/
structure Spelled (text : String) (kinds : List Kind) : Prop where
  spellable : AllSpellable kinds
  toList_eq : text.toList = kinds.flatMap Token.Kind.spelling

theorem spelled_empty : Spelled "" [] := ⟨allSpellable_nil, rfl⟩

theorem Spelled.append {text more : String} {kinds moreKinds : List Kind}
    (h : Spelled text kinds) (hmore : Spelled more moreKinds) :
    Spelled (text ++ more) (kinds ++ moreKinds) :=
  ⟨allSpellable_append.mpr ⟨h.spellable, hmore.spellable⟩, by
    rw [String.toList_append, h.toList_eq, hmore.toList_eq, List.flatMap_append]⟩

/-- A text that spells one token. -/
theorem spelled_symbol {text : String} {kind : Kind} (hspell : kind.Spellable)
    (h : text.toList = kind.spelling) : Spelled text [kind] :=
  ⟨allSpellable_cons.mpr ⟨hspell, allSpellable_nil⟩, by simp [h]⟩

/-! ### Names -/

/-- The token as which a name is printed. -/
def nameKind (name : String) : Kind := if isBareName name then .bare name else .quoted name

/-- The token as which a name is printed where some words are reserved. -/
def unreservedKind (reserved : List String) (name : String) : Kind :=
  if reserved.contains name then .quoted name else nameKind name

@[simp] theorem nameKind_name? (name : String) : (nameKind name).name? = some name := by
  unfold nameKind
  split <;> rfl

@[simp] theorem unreservedKind_name? (reserved : List String) (name : String) :
    (unreservedKind reserved name).name? = some name := by
  unfold unreservedKind
  split
  · rfl
  · exact nameKind_name? name

theorem unreservedKind_ne {reserved : List String} {word : String} (h : word ∈ reserved)
    (name : String) : unreservedKind reserved name ≠ .bare word := by
  unfold unreservedKind nameKind
  split
  · simp
  · rename_i hname
    split
    · intro hsame
      cases hsame
      exact hname (by simpa using h)
    · simp

theorem quotedName_spelled {name : String} (h : Writable name) :
    Spelled (quotedName name) [.quoted name] :=
  ⟨allSpellable_cons.mpr ⟨h, allSpellable_nil⟩, by simp [quotedName, Token.Kind.spelling]⟩

theorem spellable_of_isBareName {name : String} (h : isBareName name = true) :
    (Kind.bare name).Spellable := by
  simp only [isBareName, Bool.and_eq_true, Bool.not_eq_true', List.all_eq_true] at h
  refine ⟨?_, h.2⟩
  intro hnil
  rw [String.toList_eq_nil_iff] at hnil
  subst hnil
  exact absurd h.1 (by decide)

theorem bareName_spelled {name : String} (h : isBareName name = true) :
    Spelled name [.bare name] :=
  spelled_symbol (spellable_of_isBareName h) rfl

theorem printName_spelled {name : String} (h : Writable name) :
    Spelled (printName name) [nameKind name] := by
  unfold printName nameKind
  split
  · rename_i hbare
    exact bareName_spelled hbare
  · exact quotedName_spelled h

theorem printUnreserved_spelled (reserved : List String) {name : String} (h : Writable name) :
    Spelled (printUnreserved reserved name) [unreservedKind reserved name] := by
  unfold printUnreserved unreservedKind
  split
  · exact quotedName_spelled h
  · exact printName_spelled h

/-! ### Parts of a field -/

/-- The steps of a JSON path, if there is one. -/
def printSteps : Option JsonPath → String
  | none => ""
  | some path => printKeys path.text path.keys

/-- The function that is applied to a column, if there is one. -/
def printSummary : Option Aggregate → String
  | none => ""
  | some aggregate => "." ++ aggregate.function.name ++ "()" ++ printCast aggregate.cast

theorem Field.printTail_eq (field : Field) :
    field.printTail =
      printSteps field.jsonPath ++ printCast field.cast ++ printSummary field.aggregate := by
  unfold Field.printTail
  cases field.jsonPath <;> cases field.aggregate <;> rfl

theorem spelled_star : Spelled "*" [.star] := spelled_symbol trivial rfl

theorem printCast_spelled {cast : Option String} (h : ∀ type ∈ cast, Writable type) :
    ∃ kinds, Cast kinds cast ∧ Spelled (printCast cast) kinds := by
  cases cast with
  | none => exact ⟨[], .absent, spelled_empty⟩
  | some type =>
    have hmark : Spelled "::" [.doubleColon] := spelled_symbol trivial rfl
    exact ⟨_, .present (nameKind_name? type), hmark.append (printName_spelled (h type rfl))⟩

theorem printKeys_spelled (text : Bool) {keys : List String} (hkeys : keys ≠ [])
    (h : ∀ key ∈ keys, Writable key) :
    ∃ kinds, Steps kinds ⟨keys, text⟩ ∧ Spelled (printKeys text keys) kinds := by
  have harrow : Spelled "->" [.arrow] := spelled_symbol trivial rfl
  induction keys with
  | nil => exact absurd rfl hkeys
  | cons key rest ih =>
    have hname := printName_spelled (h key (by simp))
    cases rest with
    | nil =>
      cases text with
      | true =>
        have hlast : Spelled "->>" [.doubleArrow] := spelled_symbol trivial rfl
        exact ⟨_, .text (nameKind_name? key), hlast.append hname⟩
      | false => exact ⟨_, .json (nameKind_name? key) .done, harrow.append hname⟩
    | cons next rest =>
      obtain ⟨kinds, hsteps, hspelled⟩ :=
        ih (List.cons_ne_nil next rest) fun key hkey => h key (List.mem_cons_of_mem _ hkey)
      exact ⟨_, .json (nameKind_name? key) hsteps, (harrow.append hname).append hspelled⟩

theorem printAlias_spelled {field : Field} (h : ∀ key ∈ field.key, Writable key) :
    ∃ kinds, Key kinds field.key ∧ Spelled field.printAlias kinds := by
  unfold Field.printAlias
  cases hkey : field.key with
  | none => exact ⟨[], .absent, spelled_empty⟩
  | some key =>
    have hcolon : Spelled ":" [.colon] := spelled_symbol trivial rfl
    exact ⟨_, .present (nameKind_name? key), (printName_spelled (h key hkey)).append hcolon⟩

theorem printHints_spelled {field : Field} (h : ∀ hint ∈ field.hint, Writable hint) :
    ∃ kinds, Grammar.Hints kinds field.hint field.innerJoin ∧ Spelled field.printHints kinds := by
  have hbang : Spelled "!" [.bang] := spelled_symbol trivial rfl
  have hjoins : ∃ kinds, Joins kinds field.innerJoin ∧
      Spelled (if field.innerJoin then "!inner" else "") kinds := by
    cases field.innerJoin with
    | false => exact ⟨[], .done, spelled_empty⟩
    | true =>
      have hinner : Spelled "inner" [.bare "inner"] := bareName_spelled (by decide)
      exact ⟨_, .inner .done, hbang.append hinner⟩
  obtain ⟨kinds, hjoins, hspelled⟩ := hjoins
  unfold Field.printHints
  cases hhint : field.hint with
  | none => exact ⟨kinds, .absent hjoins, spelled_empty.append hspelled⟩
  | some hint =>
    have hname := printUnreserved_spelled ["inner", "left"] (h hint hhint)
    exact ⟨_, .present (unreservedKind_name? ["inner", "left"] hint)
      (unreservedKind_ne (by simp) hint) (unreservedKind_ne (by simp) hint) hjoins,
      (hbang.append hname).append hspelled⟩

/-- A function with its parentheses, and the cast of its result. -/
theorem printFunction_spelled (function : AggregateFunction) {cast : Option String}
    (h : ∀ type ∈ cast, Writable type) :
    ∃ kinds, Cast kinds cast ∧ Spelled (function.name ++ "()" ++ printCast cast)
      (.bare function.name :: .leftParen :: .rightParen :: kinds) := by
  obtain ⟨kinds, hcast, hspelled⟩ := printCast_spelled h
  have hname : Spelled function.name [.bare function.name] :=
    bareName_spelled (by cases function <;> decide)
  have hparens : Spelled "()" [.leftParen, .rightParen] :=
    (spelled_symbol trivial rfl : Spelled "(" [.leftParen]).append
      (spelled_symbol trivial rfl : Spelled ")" [.rightParen])
  exact ⟨kinds, hcast, (hname.append hparens).append hspelled⟩

theorem printTail_spelled {field : Field} (h : field.Writable) (hleaf : field.IsLeaf) :
    ∃ steps cast summary path,
      Steps steps path ∧ Cast cast field.cast ∧ Summary summary field.aggregate ∧
        field.jsonPath = (if path.keys.isEmpty then none else some path) ∧
        Spelled field.printTail (steps ++ cast ++ summary) := by
  have hpath : ∃ steps path, Steps steps path ∧
      field.jsonPath = (if path.keys.isEmpty then none else some path) ∧
      Spelled (printSteps field.jsonPath) steps := by
    cases hjson : field.jsonPath with
    | none => exact ⟨[], ⟨[], false⟩, .done, rfl, spelled_empty⟩
    | some path =>
      have hkeys : path.keys ≠ [] := hleaf.path path hjson
      obtain ⟨steps, hsteps, hspelled⟩ := printKeys_spelled path.text hkeys (h.path path hjson)
      exact ⟨steps, path, hsteps, by simp [hkeys], hspelled⟩
  have hsummary : ∃ summary, Summary summary field.aggregate ∧
      Spelled (printSummary field.aggregate) summary := by
    cases haggregate : field.aggregate with
    | none => exact ⟨[], .absent, spelled_empty⟩
    | some aggregate =>
      obtain ⟨kinds, hcast, hspelled⟩ :=
        printFunction_spelled aggregate.function (h.result aggregate haggregate)
      have hdot : Spelled "." [.dot] := spelled_symbol trivial rfl
      have hplain : aggregate = ⟨aggregate.function, aggregate.cast, false⟩ := by
        rw [← hleaf.aggregate aggregate haggregate]
      have hpresent : Summary (.dot :: .bare aggregate.function.name :: .leftParen ::
          .rightParen :: kinds) (some ⟨aggregate.function, aggregate.cast, false⟩) :=
        .present rfl hcast
      rw [← hplain] at hpresent
      refine ⟨_, hpresent, ?_⟩
      simpa [printSummary, String.append_assoc] using hdot.append hspelled
  obtain ⟨steps, path, hsteps, hjson, hspelledSteps⟩ := hpath
  obtain ⟨cast, hcast, hspelledCast⟩ := printCast_spelled h.cast
  obtain ⟨summary, hsummary, hspelledSummary⟩ := hsummary
  refine ⟨steps, cast, summary, path, hsteps, hcast, hsummary, hjson, ?_⟩
  rw [Field.printTail_eq]
  exact (hspelledSteps.append hspelledCast).append hspelledSummary

/-! ### Fields -/

theorem Field.IsRowCount.eq {field : Field} (h : field.IsRowCount) :
    ∃ cast, field = Field.rowCount field.key cast := by
  obtain ⟨cast, haggregate⟩ := h.aggregate
  obtain ⟨name, key, hint, type, aggregate, path, innerJoin, embedded⟩ := field
  obtain ⟨rfl, -, rfl, rfl, rfl, rfl, rfl⟩ := h
  cases haggregate
  exact ⟨cast, rfl⟩

theorem Field.IsEmbedding.eq {field : Field} (h : field.IsEmbedding) :
    field = Field.embedding field.name field.key field.hint field.innerJoin := by
  obtain ⟨name, key, hint, type, aggregate, path, innerJoin, embedded⟩ := field
  obtain ⟨rfl, rfl, rfl, rfl⟩ := h
  rfl

theorem Field.IsLeaf.eq {field : Field} (h : field.IsLeaf) :
    field = ⟨field.name, field.key, none, field.cast, field.aggregate, field.jsonPath, false,
      false⟩ := by
  obtain ⟨name, key, hint, type, aggregate, path, innerJoin, embedded⟩ := field
  obtain ⟨rfl, rfl, rfl, -, -⟩ := h
  rfl

theorem print_rowCount_spelled {field : Field} (h : field.Writable) (hcount : field.IsRowCount)
    (empty : Bool) (below : String) :
    ∃ kinds, Item kinds field [] ∧ Spelled (field.print empty below) kinds := by
  obtain ⟨type, hfield⟩ := hcount.eq
  obtain ⟨key, hkey, hkeySpelled⟩ := printAlias_spelled h.key
  have hresult : ∀ name ∈ type, Writable name := h.result ⟨.count, type, true⟩ (by rw [hfield]; rfl)
  obtain ⟨cast, hcast, hspelled⟩ := printFunction_spelled .count hresult
  have hprint : field.print empty below =
      field.printAlias ++ (AggregateFunction.count.name ++ "()" ++ printCast type) := by
    rw [hfield]
    rfl
  refine ⟨_, ?_, hprint ▸ hkeySpelled.append hspelled⟩
  have hitem := Item.rowCount hkey hcast
  rwa [← hfield] at hitem

theorem print_leaf_spelled {field : Field} (h : field.Writable) (hleaf : field.IsLeaf)
    (empty : Bool) (below : String) :
    ∃ kinds, Item kinds field [] ∧ Spelled (field.print empty below) kinds := by
  obtain ⟨key, hkey, hkeySpelled⟩ := printAlias_spelled h.key
  obtain ⟨steps, cast, summary, path, hsteps, hcast, hsummary, hjson, hspelled⟩ :=
    printTail_spelled h hleaf
  have hplain : field.aggregate.filter (·.standalone) = none := by
    rw [Option.filter_eq_none_iff]
    intro aggregate haggregate
    simp [hleaf.aggregate aggregate haggregate]
  have hprint : field.print empty below =
      field.printAlias ++ (printName field.name ++ field.printTail) := by
    unfold Field.print
    simp only [hplain, hleaf.embedded]
    rfl
  refine ⟨_, ?_, hprint ▸ hkeySpelled.append ((printName_spelled h.name).append hspelled)⟩
  have hitem := Item.column hkey (nameKind_name? field.name) hsteps hcast hsummary
  rw [← hjson, ← hleaf.eq] at hitem
  simpa using hitem

theorem Grammar.Children.nodes {kinds : List Kind} {nodes : List Node} (h : Children kinds nodes)
    (hne : nodes ≠ []) : Nodes kinds nodes := by
  cases h with
  | absent => exact absurd rfl hne
  | present hnodes => exact hnodes

/-- The token as which the relation of an embedding is printed. -/
def relationKind (field : Field) (empty : Bool) : Kind :=
  if empty then unreservedKind ["count"] field.name else nameKind field.name

theorem relationKind_name? (field : Field) (empty : Bool) :
    (relationKind field empty).name? = some field.name := by
  unfold relationKind
  split
  · exact unreservedKind_name? ["count"] field.name
  · exact nameKind_name? field.name

theorem printRelation_spelled {field : Field} (h : Writable field.name) (empty : Bool) :
    Spelled (field.printRelation empty) [relationKind field empty] := by
  unfold Field.printRelation relationKind
  split
  · exact printUnreserved_spelled ["count"] h
  · exact printName_spelled h

theorem print_embedding_spelled {field : Field} (h : field.Writable)
    (hembedding : field.IsEmbedding) {children : List Node} {below : String} {kinds : List Kind}
    (hchildren : Children kinds children) (hbelow : Spelled below kinds) :
    ∃ kinds, Item kinds field children ∧ Spelled (field.print children.isEmpty below) kinds := by
  obtain ⟨key, hkey, hkeySpelled⟩ := printAlias_spelled h.key
  obtain ⟨hints, hhints, hhintsSpelled⟩ := printHints_spelled h.hint
  have hcount : ¬(relationKind field children.isEmpty = .bare "count" ∧ hints = [] ∧
      kinds = []) := by
    rintro ⟨hname, -, rfl⟩
    -- without kinds below there are no children, and then the word is quoted
    have hempty : children.isEmpty = true := by
      cases hchildren with
      | absent => rfl
      | present hnodes =>
        obtain ⟨kind, rest, hkinds, -⟩ := hnodes.head
        cases hkinds
    rw [relationKind, if_pos hempty] at hname
    exact unreservedKind_ne (List.mem_singleton.mpr rfl) field.name hname
  have hopen : Spelled "(" [.leftParen] := spelled_symbol trivial rfl
  have hclose : Spelled ")" [.rightParen] := spelled_symbol trivial rfl
  have hprint : field.print children.isEmpty below = field.printAlias ++
      (field.printRelation children.isEmpty ++ field.printHints ++ "(" ++ below ++ ")") := by
    unfold Field.print
    simp only [hembedding.aggregate, hembedding.embedded]
    rfl
  have hspelled := hkeySpelled.append (((((printRelation_spelled h.name children.isEmpty).append
    hhintsSpelled).append hopen).append hbelow).append hclose)
  have hitem := Item.embedding hkey (relationKind_name? field children.isEmpty) hhints hchildren
    hcount
  rw [← hembedding.eq] at hitem
  refine ⟨_, hitem, ?_⟩
  rw [hprint]
  simpa using hspelled

/-! ### Trees -/

mutual

theorem print_spelled : ∀ {node : Node}, node.Formed →
    ∃ kinds, One kinds node ∧ Spelled node.print kinds
  | .star, _ => ⟨_, .star, spelled_star⟩
  | .field field children, ⟨hwritable, .inl ⟨hcount, hchildren⟩⟩ => by
    subst hchildren
    obtain ⟨kinds, hitem, hspelled⟩ := print_rowCount_spelled hwritable hcount true ""
    exact ⟨kinds, .field hitem, hspelled⟩
  | .field field children, ⟨hwritable, .inr (.inl ⟨hembedding, hchildren⟩)⟩ => by
    obtain ⟨below, hbelow, hbelowSpelled⟩ := printList_spelled hchildren
    obtain ⟨kinds, hitem, hspelled⟩ :=
      print_embedding_spelled hwritable hembedding hbelow hbelowSpelled
    exact ⟨kinds, .field hitem, hspelled⟩
  | .field field children, ⟨hwritable, .inr (.inr ⟨hleaf, hchildren⟩)⟩ => by
    subst hchildren
    obtain ⟨kinds, hitem, hspelled⟩ := print_leaf_spelled hwritable hleaf true ""
    exact ⟨kinds, .field hitem, hspelled⟩
  | .spread target children, ⟨hwritable, hembedding, hchildren⟩ => by
    obtain ⟨below, hbelow, hbelowSpelled⟩ := printList_spelled hchildren
    obtain ⟨kinds, hitem, hspelled⟩ :=
      print_embedding_spelled hwritable hembedding hbelow hbelowSpelled
    have hdots : Spelled "..." [.ellipsis] := spelled_symbol trivial rfl
    exact ⟨_, .spread hitem hembedding.embedded, hdots.append hspelled⟩

theorem printList_spelled : ∀ {nodes : List Node}, Node.AllFormed nodes →
    ∃ kinds, Children kinds nodes ∧ Spelled (Node.printList nodes) kinds
  | [], _ => ⟨[], .absent, spelled_empty⟩
  | [node], ⟨hnode, _⟩ => by
    obtain ⟨kinds, hone, hspelled⟩ := print_spelled hnode
    exact ⟨kinds, .present (.last hone), hspelled⟩
  | node :: next :: rest, ⟨hnode, hrest⟩ => by
    obtain ⟨first, hone, hfirst⟩ := print_spelled hnode
    obtain ⟨kinds, hchildren, hspelled⟩ := printList_spelled hrest
    have hcomma : Spelled "," [.comma] := spelled_symbol trivial rfl
    have hall := Nodes.more hone (hchildren.nodes (List.cons_ne_nil next rest))
    refine ⟨_, .present hall, ?_⟩
    have htext := (hfirst.append hcomma).append hspelled
    simpa [Node.printList] using htext

end

theorem parse_printList {nodes : List Node} (h : WellFormed nodes) :
    parse (Node.printList nodes) = .ok nodes := by
  obtain ⟨kinds, hchildren, hspelled⟩ := printList_spelled h.formed
  exact parse_of_spelling (hchildren.nodes h.nonempty) hspelled.spellable hspelled.toList_eq

theorem wellFormed_of_parse {input : String} {nodes : List Node} (h : parse input = .ok nodes) :
    WellFormed nodes := by
  obtain ⟨kinds, hspaced, hnodes⟩ := spaced_of_parse h
  exact hnodes.wellFormed hspaced.spellable

theorem printList_eq_intercalate (nodes : List Node) :
    Node.printList nodes = ",".intercalate (nodes.map Node.print) := by
  induction nodes with
  | nil => simp [Node.printList]
  | cons node rest ih =>
    cases rest with
    | nil => simp [Node.printList]
    | cons next rest =>
      rw [Node.printList, ih]
      simp [String.intercalate_cons_cons]

/-- **What the parser gives are the well-formed trees, and it reads back what they print.**  So
reading, printing and reading again gives what reading gave. -/
theorem parse_image_eq_wellFormed (nodes : List Node) :
    ((∃ input, parse input = .ok nodes) ↔ WellFormed nodes) ∧
      (WellFormed nodes → parse (",".intercalate (nodes.map Node.print)) = .ok nodes) ∧
      ∀ input, parse input = .ok nodes →
        parse (",".intercalate (nodes.map Node.print)) = .ok nodes := by
  rw [← printList_eq_intercalate]
  refine ⟨⟨?_, ?_⟩, parse_printList, ?_⟩
  · rintro ⟨input, h⟩
    exact wellFormed_of_parse h
  · intro h
    exact ⟨Node.printList nodes, parse_printList h⟩
  · intro input h
    exact parse_printList (wellFormed_of_parse h)

-- without the quotes the first would count rows, and the second would be a kind of join
example : Node.printList [.field (Field.embedding "count" none none false) [],
    .field (Field.embedding "d" none (some "inner") true) [.star]] =
    "\"count\"(),d!\"inner\"!inner(*)" := by decide

end GatewayQuery.Select
