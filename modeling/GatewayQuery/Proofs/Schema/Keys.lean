/-
Which relation declares which key.

A key is found through the tables over a schema, under one of its ends.  Everything that
is said of it afterwards is said of the declarations themselves: there is a relation with
that name, and the key stands among its keys.
-/
import GatewayQuery.Schema.Index
import Mathlib.Data.List.Forall2
import Mathlib.Data.List.Nodup
import Mathlib.Data.Option.Basic

namespace GatewayQuery

theorem Relation.column?_eq_none_iff {relation : Relation} {name : String} :
    relation.column? name = none ↔ ¬∃ column ∈ relation.columns, column.name = name := by
  simp [column?]

namespace Schema

variable {schema : Schema}

/-- There is a relation with the name. -/
def Has (schema : Schema) (name : String) : Prop :=
  ∃ relation ∈ schema.relations, relation.name = name

/-- A relation with the name declares the key. -/
def Declares (schema : Schema) (owner : String) (key : ForeignKey) : Prop :=
  ∃ relation ∈ schema.relations, relation.name = owner ∧ key ∈ relation.keys

instance (schema : Schema) (name : String) : Decidable (schema.Has name) :=
  inferInstanceAs (Decidable (∃ relation ∈ schema.relations, relation.name = name))

instance (schema : Schema) (owner : String) (key : ForeignKey) :
    Decidable (schema.Declares owner key) :=
  inferInstanceAs
    (Decidable (∃ relation ∈ schema.relations, relation.name = owner ∧ key ∈ relation.keys))

theorem name_of_relation? {name : String} {relation : Relation}
    (h : schema.relation? name = some relation) : relation.name = name := by
  simpa using List.find?_some h

theorem has_of_relation? {name : String} {relation : Relation}
    (h : schema.relation? name = some relation) : schema.Has name :=
  ⟨relation, List.mem_of_find?_eq_some h, name_of_relation? h⟩

theorem relation?_of_has {name : String} (h : schema.Has name) :
    ∃ relation, schema.relation? name = some relation ∧ relation.name = name := by
  obtain ⟨relation, hmem, hname⟩ := h
  have hsome : (schema.relation? name).isSome = true :=
    List.find?_isSome.mpr ⟨relation, hmem, by simpa using hname⟩
  obtain ⟨found, hfound⟩ := Option.isSome_iff_exists.mp hsome
  exact ⟨found, hfound, name_of_relation? hfound⟩

theorem relation?_eq_none_iff {name : String} :
    schema.relation? name = none ↔ ¬schema.Has name := by
  constructor
  · intro hnone hhas
    obtain ⟨relation, hsome, -⟩ := relation?_of_has hhas
    rw [hnone] at hsome
    cases hsome
  · intro hnot
    cases hfound : schema.relation? name with
    | none => rfl
    | some relation => exact absurd (has_of_relation? hfound) hnot

/-- Where names are apart, a look-up finds the relation that bears the name. -/
theorem relation?_eq_some_iff (hdistinct : (schema.relations.map (·.name)).Nodup) {name : String}
    {relation : Relation} :
    schema.relation? name = some relation ↔ relation ∈ schema.relations ∧ relation.name = name := by
  constructor
  · intro hfound
    exact ⟨List.mem_of_find?_eq_some hfound, name_of_relation? hfound⟩
  · intro h
    obtain ⟨hmem, hname⟩ := h
    obtain ⟨found, hfound, hfoundName⟩ := relation?_of_has ⟨relation, hmem, hname⟩
    have hsame : found = relation :=
      List.inj_on_of_nodup_map hdistinct (List.mem_of_find?_eq_some hfound) hmem
        (hfoundName.trans hname.symm)
    rw [hfound, hsame]

theorem Declares.has {owner : String} {key : ForeignKey} (h : schema.Declares owner key) :
    schema.Has owner := by
  obtain ⟨relation, hmem, hname, -⟩ := h
  exact ⟨relation, hmem, hname⟩

/-- The keys with their owners are the declared ones. -/
theorem mem_edges_iff {edge : Edge} :
    edge ∈ schema.edges ↔ schema.Declares edge.owner edge.key := by
  obtain ⟨owner, key⟩ := edge
  constructor
  · intro h
    obtain ⟨relation, hmem, hedge⟩ := List.mem_flatMap.mp h
    obtain ⟨declared, hkey, hsame⟩ := List.mem_map.mp hedge
    obtain ⟨rfl, rfl⟩ := Edge.mk.inj hsame
    exact ⟨relation, hmem, rfl, hkey⟩
  · rintro ⟨relation, hmem, rfl, hkey⟩
    exact List.mem_flatMap.mpr ⟨relation, hmem, List.mem_map.mpr ⟨key, hkey, rfl⟩⟩

/-- Lists that are related item by item give related results when they are searched. -/
theorem find?_rel {α β : Type} {R : α → β → Prop} {items : List α} {others : List β}
    (h : List.Forall₂ R items others) {p : α → Bool} {q : β → Bool}
    (hsame : ∀ item other, R item other → p item = q other) :
    Option.Rel R (items.find? p) (others.find? q) := by
  induction h with
  | nil => exact .none
  | @cons item other rest others hitem hrest ih =>
    rw [List.find?_cons, List.find?_cons, ← hsame item other hitem]
    cases p item with
    | true => exact .some hitem
    | false => exact ih

/-- A relation that is found on one side has its counterpart on the other. -/
theorem exists_of_rel {schema twin : Schema} {R : Relation → Relation → Prop} {name : String}
    {relation : Relation} (h : Option.Rel R (schema.relation? name) (twin.relation? name))
    (hfound : schema.relation? name = some relation) :
    ∃ other, twin.relation? name = some other ∧ R relation other := by
  rw [hfound] at h
  generalize twin.relation? name = found at h ⊢
  cases h with
  | @some _ other hrelation => exact ⟨other, rfl, hrelation⟩

/-- Where a name is found on both sides or on neither, it is known on both or on neither. -/
theorem has_iff_of_rel {schema twin : Schema} {R : Relation → Relation → Prop} {name : String}
    (h : Option.Rel R (schema.relation? name) (twin.relation? name)) :
    schema.Has name ↔ twin.Has name := by
  rw [← not_iff_not, ← relation?_eq_none_iff, ← relation?_eq_none_iff]
  generalize schema.relation? name = found at h ⊢
  generalize twin.relation? name = other at h ⊢
  cases h with
  | none => exact Iff.rfl
  | some hrelation => simp

/-- No two keys of the schema have the same name. -/
def NamesKeysApart (schema : Schema) : Prop := (schema.edges.map fun edge => edge.key.name).Nodup

instance (schema : Schema) : Decidable schema.NamesKeysApart :=
  inferInstanceAs (Decidable (schema.edges.map fun edge => edge.key.name).Nodup)

theorem NamesKeysApart.edge_eq (h : schema.NamesKeysApart) {edge other : Edge}
    (hedge : edge ∈ schema.edges) (hother : other ∈ schema.edges)
    (hname : edge.key.name = other.key.name) : edge = other :=
  List.inj_on_of_nodup_map h hedge hother hname

end Schema

end GatewayQuery
