/-
What the tables over a schema hold.

`Schema/Index.lean` follows the pass that fills the tables and says for each of them which edges a
look-up gives.  Here the look-ups are said in terms of the declarations, relation by relation, with
no regard to whether names are apart or the relations that are pointed at exist.

It follows that neither table loses a key or has one twice.  The lists of a table are the edges of
the schema sorted by a name, the owner or the relation pointed at, and lists that are sorted by a
name are a partition whatever the names are.
-/
import GatewayQuery.Schema.Index
import Mathlib.Data.List.Dedup
import Mathlib.Data.List.Perm.Basic

namespace GatewayQuery.Schema

/-! ### Lists by name -/

/-- The items stand in the lists under the names, each in one of them and there as often as it
stands among the items. -/
def Parted {α : Type} (lists : String → List α) (items : List α) : Prop :=
  ∃ names : List String, names.Nodup ∧ (names.flatMap lists).Perm items ∧
    ∀ name, name ∉ names → lists name = []

theorem perm_flatMap_filter {α : Type} (label : α → String) {names : List String}
    (hnames : names.Nodup) {items : List α} (hitems : ∀ item ∈ items, label item ∈ names) :
    (names.flatMap fun name => items.filter (label · == name)).Perm items := by
  induction names generalizing items with
  | nil =>
    have hnil : items = [] := List.eq_nil_iff_forall_not_mem.mpr fun item hitem =>
      List.not_mem_nil (hitems item hitem)
    rw [hnil]
    exact .nil
  | cons name rest ih =>
    obtain ⟨hname, hrest⟩ := List.nodup_cons.mp hnames
    have hlabels : ∀ item ∈ items.filter (!label · == name), label item ∈ rest := by
      intro item hitem
      obtain ⟨hmem, hne⟩ := List.mem_filter.mp hitem
      exact (List.mem_cons.mp (hitems item hmem)).resolve_left (by simpa using hne)
    have hothers := ih hrest hlabels
    -- No item with another name was taken away.
    have hsame : ∀ other ∈ rest, (items.filter (!label · == name)).filter (label · == other) =
        items.filter (label · == other) := by
      intro other hother
      have hne : other ≠ name := by
        rintro rfl
        exact hname hother
      rw [List.filter_filter]
      refine List.filter_congr fun item _ => ?_
      by_cases h : label item = other
      · simp [h, hne]
      · simp [h]
    rw [List.flatMap_cons]
    rw [List.flatMap_congr hsame] at hothers
    exact (hothers.append_left _).trans (List.filter_append_perm _ items)

/-- Items that are sorted by a name of theirs. -/
theorem parted_filter {α : Type} (label : α → String) (items : List α) :
    Parted (fun name => items.filter (label · == name)) items := by
  refine ⟨(items.map label).dedup, List.nodup_dedup _, ?_, ?_⟩
  · exact perm_flatMap_filter label (List.nodup_dedup _) fun item hitem =>
      List.mem_dedup.mpr (List.mem_map_of_mem hitem)
  · intro name hname
    rw [List.mem_dedup] at hname
    refine List.filter_eq_nil_iff.mpr fun item hitem hlabel => hname ?_
    rw [← eq_of_beq hlabel]
    exact List.mem_map_of_mem hitem

/-! ### The edges under a name -/

theorem filter_owner_edgesOf (relations : List Relation) (name : String) :
    (edgesOf relations).filter (·.owner == name) =
      (relations.filter (·.name == name)).flatMap fun relation =>
        relation.keys.map (Edge.mk name) := by
  induction relations with
  | nil => rfl
  | cons relation rest ih =>
    have hcons : edgesOf (relation :: rest) =
        relation.keys.map (Edge.mk relation.name) ++ edgesOf rest := rfl
    rw [hcons, List.filter_append, ih]
    by_cases h : relation.name = name
    · rw [List.filter_cons_of_pos (by simpa using h), List.flatMap_cons, h,
        List.filter_eq_self.mpr (by simp)]
    · rw [List.filter_cons_of_neg (by simpa using h), List.filter_eq_nil_iff.mpr (by simp [h]),
        List.nil_append]

theorem filter_referenced_edgesOf (relations : List Relation) (name : String) :
    (edgesOf relations).filter (·.key.referenced == name) =
      relations.flatMap fun relation =>
        (relation.keys.filter (·.referenced == name)).map (Edge.mk relation.name) := by
  rw [edgesOf, List.filter_flatMap]
  simp only [List.filter_map, Function.comp_def]

namespace Index

/-- **The tables hold what a scan of the schema finds.**  A name stands for the first relation that
bears it; its outgoing keys are those of all relations that bear it and its incoming ones those of
any relation that point at it, both in the order of declaration and with their owners.  Each of the
two tables holds every declared key in one list, and there once. -/
theorem of_eq_scan (schema : Schema) :
    (∀ name, (of schema).relation? name = schema.relation? name) ∧
    (∀ name, (of schema).outgoing name =
      (schema.relations.filter (·.name == name)).flatMap fun relation =>
        relation.keys.map (Edge.mk name)) ∧
    (∀ name, (of schema).incoming name =
      schema.relations.flatMap fun relation =>
        (relation.keys.filter (·.referenced == name)).map (Edge.mk relation.name)) ∧
    Parted (of schema).outgoing schema.edges ∧ Parted (of schema).incoming schema.edges := by
  have houtgoing : (of schema).outgoing = fun name => schema.edges.filter (·.owner == name) :=
    funext (outgoing_of schema)
  have hincoming : (of schema).incoming =
      fun name => schema.edges.filter (·.key.referenced == name) :=
    funext (incoming_of schema)
  refine ⟨relation?_of schema, fun name => ?_, fun name => ?_, ?_, ?_⟩
  · rw [outgoing_of]
    exact filter_owner_edgesOf schema.relations name
  · rw [incoming_of]
    exact filter_referenced_edgesOf schema.relations name
  · rw [houtgoing]
    exact parted_filter Edge.owner schema.edges
  · rw [hincoming]
    exact parted_filter (fun edge => edge.key.referenced) schema.edges

end Index

end GatewayQuery.Schema
