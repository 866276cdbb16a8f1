/-
The trees that a select expression can stand for.

A field of the tree has room for more than any expression can say: a hint on a column,
a cast on an embedding, a path without steps.  What an expression can say is one of
three forms, and nothing in it may hold a double quote, because names in quotes know
no escape.  Whatever the grammar derives from kinds that can be spelled is of these
forms.
-/
import GatewayQuery.Proofs.Select.Spelling

namespace GatewayQuery.Select

open Token (Kind)
open Grammar

/-- A name that can be written, be it in quotes. -/
def Writable (name : String) : Prop := '"' ∉ name.toList

namespace Field

/-- Every name that a field mentions can be written. -/
structure Writable (field : Field) : Prop where
  name : Select.Writable field.name
  key : ∀ key ∈ field.key, Select.Writable key
  hint : ∀ hint ∈ field.hint, Select.Writable hint
  cast : ∀ cast ∈ field.cast, Select.Writable cast
  path : ∀ path ∈ field.jsonPath, ∀ key ∈ path.keys, Select.Writable key
  result : ∀ aggregate ∈ field.aggregate, ∀ cast ∈ aggregate.cast, Select.Writable cast

/-- The count of the rows, with a key and a cast of the result at most. -/
structure IsRowCount (field : Field) : Prop where
  name : field.name = AggregateFunction.count.name
  aggregate : ∃ cast, field.aggregate = some ⟨.count, cast, true⟩
  hint : field.hint = none
  cast : field.cast = none
  path : field.jsonPath = none
  innerJoin : field.innerJoin = false
  embedded : field.embedded = false

/-- A related row or rows. -/
structure IsEmbedding (field : Field) : Prop where
  embedded : field.embedded = true
  cast : field.cast = none
  aggregate : field.aggregate = none
  path : field.jsonPath = none

/-- A column, a value inside of it, or a sum over the rows of a group. -/
structure IsLeaf (field : Field) : Prop where
  embedded : field.embedded = false
  hint : field.hint = none
  innerJoin : field.innerJoin = false
  path : ∀ path ∈ field.jsonPath, path.keys ≠ []
  aggregate : ∀ aggregate ∈ field.aggregate, aggregate.standalone = false

end Field

namespace Node

mutual

/-- A node of which all fields are of one of the three forms. -/
def Formed : Node → Prop
  | .star => True
  | .field item children =>
    item.Writable ∧
      ((item.IsRowCount ∧ children = []) ∨ (item.IsEmbedding ∧ AllFormed children) ∨
        (item.IsLeaf ∧ children = []))
  | .spread target children => target.Writable ∧ target.IsEmbedding ∧ AllFormed children

def AllFormed : List Node → Prop
  | [] => True
  | node :: rest => Formed node ∧ AllFormed rest

end

end Node

/-- A tree that an expression can stand for. -/
structure WellFormed (nodes : List Node) : Prop where
  nonempty : nodes ≠ []
  formed : Node.AllFormed nodes

/-! ### What the grammar derives is of these forms -/

theorem writable_of_name {kind : Kind} {text : String} (h : kind.Spellable)
    (hname : kind.name? = some text) : Writable text := by
  cases kind with
  | bare name =>
    cases hname
    exact fun hmem => absurd (h.2 _ hmem) (by decide)
  | quoted name =>
    cases hname
    exact h
  | _ => cases hname

theorem Grammar.Cast.writable {kinds : List Kind} {cast : Option String} (h : Cast kinds cast)
    (hspell : AllSpellable kinds) : ∀ type ∈ cast, Writable type := by
  cases h with
  | absent => simp
  | present hname =>
    simp only [allSpellable_cons] at hspell
    simpa using writable_of_name hspell.2.1 hname

theorem Grammar.Key.writable {kinds : List Kind} {key : Option String} (h : Key kinds key)
    (hspell : AllSpellable kinds) : ∀ name ∈ key, Writable name := by
  cases h with
  | absent => simp
  | present hname =>
    simp only [allSpellable_cons] at hspell
    simpa using writable_of_name hspell.1 hname

theorem Grammar.Hints.writable {kinds : List Kind} {hint : Option String} {innerJoin : Bool}
    (h : Grammar.Hints kinds hint innerJoin) (hspell : AllSpellable kinds) :
    ∀ name ∈ hint, Writable name := by
  cases h with
  | absent => simp
  | present hname =>
    simp only [allSpellable_cons] at hspell
    simpa using writable_of_name hspell.2.1 hname

theorem Grammar.Steps.writable {kinds : List Kind} {path : JsonPath} (h : Steps kinds path)
    (hspell : AllSpellable kinds) : ∀ key ∈ path.keys, Writable key := by
  induction h with
  | done => simp
  | text hname =>
    simp only [allSpellable_cons] at hspell
    simpa using writable_of_name hspell.2.1 hname
  | json hname hrest ih =>
    simp only [allSpellable_cons] at hspell
    intro key hkey
    rcases List.mem_cons.mp hkey with rfl | hkey
    · exact writable_of_name hspell.2.1 hname
    · exact ih hspell.2.2 key hkey

theorem Grammar.Summary.writable {kinds : List Kind} {aggregate : Option Aggregate}
    (h : Summary kinds aggregate) (hspell : AllSpellable kinds) :
    ∀ found ∈ aggregate, found.standalone = false ∧ ∀ cast ∈ found.cast, Writable cast := by
  cases h with
  | absent => simp
  | present hname hcast =>
    simp only [allSpellable_cons] at hspell
    simpa using hcast.writable hspell.2.2.2.2

mutual

theorem Grammar.Item.formed : ∀ {kinds : List Kind} {field : Field} {children : List Node},
    Item kinds field children → AllSpellable kinds → Node.Formed (.field field children)
  | _, _, _, .rowCount hkey hcast, hspell => by
    simp only [allSpellable_append, allSpellable_cons] at hspell
    have hcast' := hcast.writable hspell.2.2.2.2
    have hname : '"' ∉ "count".toList := by decide
    refine ⟨⟨hname, hkey.writable hspell.1, by simp [Field.rowCount],
      by simp [Field.rowCount], by simp [Field.rowCount], ?_⟩, .inl ⟨?_, rfl⟩⟩
    · simpa [Field.rowCount] using hcast'
    · exact ⟨rfl, ⟨_, rfl⟩, rfl, rfl, rfl, rfl, rfl⟩
  | _, _, _, .embedding hkey hname hhints hchildren _, hspell => by
    simp only [allSpellable_append, allSpellable_cons] at hspell
    obtain ⟨hkeySpell, hnameSpell, hhintsSpell, -, hbelow, -⟩ := hspell
    refine ⟨⟨writable_of_name hnameSpell hname, hkey.writable hkeySpell,
      hhints.writable hhintsSpell, by simp [Field.embedding], by simp [Field.embedding],
      by simp [Field.embedding]⟩, .inr (.inl ⟨⟨rfl, rfl, rfl, rfl⟩, hchildren.formed hbelow⟩)⟩
  | _, _, _, .column hkey hname hsteps hcast hsummary, hspell => by
    simp only [allSpellable_append, allSpellable_cons] at hspell
    obtain ⟨hkeySpell, hnameSpell, hstepsSpell, hcastSpell, hsummarySpell⟩ := hspell
    have hresult := hsummary.writable hsummarySpell
    refine ⟨⟨writable_of_name hnameSpell hname, hkey.writable hkeySpell, by simp,
      hcast.writable hcastSpell, ?_, fun aggregate h => (hresult aggregate h).2⟩,
      .inr (.inr ⟨⟨rfl, rfl, rfl, ?_, fun aggregate h => (hresult aggregate h).1⟩, rfl⟩)⟩
    · intro path hpath
      split at hpath
      · cases hpath
      · cases hpath
        exact hsteps.writable hstepsSpell
    · intro path hpath
      split at hpath
      · cases hpath
      · rename_i hkeys
        cases hpath
        simpa using hkeys

theorem Grammar.Children.formed : ∀ {kinds : List Kind} {nodes : List Node},
    Children kinds nodes → AllSpellable kinds → Node.AllFormed nodes
  | _, _, .absent, _ => trivial
  | _, _, .present hnodes, hspell => hnodes.formed hspell

theorem Grammar.One.formed : ∀ {kinds : List Kind} {node : Node}, One kinds node →
    AllSpellable kinds → Node.Formed node
  | _, _, .star, _ => trivial
  | _, _, .field hitem, hspell => hitem.formed hspell
  | _, _, .spread hitem hembedded, hspell => by
    have hspell := (allSpellable_cons.mp hspell).2
    obtain ⟨hwritable, hcount | hembedding | hleaf⟩ := hitem.formed hspell
    · rw [hcount.1.embedded] at hembedded
      cases hembedded
    · exact ⟨hwritable, hembedding⟩
    · rw [hleaf.1.embedded] at hembedded
      cases hembedded

theorem Grammar.Nodes.formed : ∀ {kinds : List Kind} {nodes : List Node}, Nodes kinds nodes →
    AllSpellable kinds → Node.AllFormed nodes
  | _, _, .last hnode, hspell => ⟨hnode.formed hspell, trivial⟩
  | _, _, .more hnode hrest, hspell => by
    simp only [allSpellable_append, allSpellable_cons] at hspell
    exact ⟨hnode.formed hspell.1, hrest.formed hspell.2.2⟩

end

theorem Grammar.Nodes.ne_nil {kinds : List Kind} {nodes : List Node} (h : Nodes kinds nodes) :
    nodes ≠ [] := by
  cases h <;> simp

theorem Grammar.Nodes.wellFormed {kinds : List Kind} {nodes : List Node} (h : Nodes kinds nodes)
    (hspell : AllSpellable kinds) : WellFormed nodes :=
  ⟨h.ne_nil, h.formed hspell⟩

end GatewayQuery.Select
