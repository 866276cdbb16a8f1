/-
What a new relation cannot change.

A relation that is added to a schema brings its own keys along, and they may point at every
relation that an expression visits.  But an expression without hints only ever asks for keys by
the name of a field: for those that the named relation declares towards the current one, and for
those that the current relation declares.  The keys of a newcomer are neither, unless the
expression names it; and no way leads to the newcomer unless a key of the schema points at it.
So the expression has the shape that it had before, or fails as it did before.
-/
import GatewayQuery.Proofs.Shape.Parallel

namespace GatewayQuery

open Schema (Edge)
open Select (Field Node EveryFieldIn Unhinted)

/-- A relation that nothing names: neither the schema that it is added to, nor the expression. -/
structure Unrelated (newcomer : Relation) (relations : List Relation) (root : String)
    (nodes : List Node) : Prop where
  newRoot : root ≠ newcomer.name
  newName : ∀ relation ∈ relations, relation.name ≠ newcomer.name
  unreferenced : ∀ relation ∈ relations, ∀ key ∈ relation.keys, key.referenced ≠ newcomer.name
  unasked : EveryFieldIn (fun field => field.name ≠ newcomer.name) nodes

namespace Schema

variable {before after : List Relation} {enums : List EnumType} {newcomer : Relation}

/-- The relations are found as before under every other name. -/
theorem relation?_insert {name : String} (h : name ≠ newcomer.name) :
    Schema.relation? ⟨before ++ newcomer :: after, enums⟩ name =
      Schema.relation? ⟨before ++ after, enums⟩ name := by
  have hnot : (newcomer.name == name) = false := by simpa using Ne.symm h
  simp [Schema.relation?, hnot]

theorem has_insert_iff {name : String} (h : name ≠ newcomer.name) :
    Schema.Has ⟨before ++ after, enums⟩ name ↔
      Schema.Has ⟨before ++ newcomer :: after, enums⟩ name := by
  rw [← not_iff_not, ← relation?_eq_none_iff, ← relation?_eq_none_iff, relation?_insert h]

/-- A search that passes over the keys of the newcomer finds the keys that it found before. -/
theorem filter_edges_insert {p : Edge → Bool}
    (h : ∀ key ∈ newcomer.keys, p ⟨newcomer.name, key⟩ = false) :
    (Schema.edges ⟨before ++ newcomer :: after, enums⟩).filter p =
      (Schema.edges ⟨before ++ after, enums⟩).filter p := by
  have hnone : (newcomer.keys.map (Edge.mk newcomer.name)).filter p = [] := by
    simpa [List.filter_eq_nil_iff] using h
  simp [Schema.edges, edgesOf, hnone]

end Schema

namespace Resolution

variable {before after : List Relation} {enums : List EnumType} {newcomer : Relation}
  {current target : String}

/-- The newcomer has no key in the places where the names of other relations are looked up. -/
theorem samePlaces_insert
    (hreferenced : ∀ relation ∈ before ++ after, ∀ key ∈ relation.keys,
      key.referenced ≠ newcomer.name)
    (hcurrent : Schema.Has ⟨before ++ after, enums⟩ current) (hother : current ≠ newcomer.name)
    (htarget : target ≠ newcomer.name) :
    SamePlaces Eq ⟨before ++ after, enums⟩ ⟨before ++ newcomer :: after, enums⟩ current target := by
  have howner : (newcomer.name == current) = false := by simpa using Ne.symm hother
  have hdeclarer : (newcomer.name == target) = false := by simpa using Ne.symm htarget
  exact {
    source := hcurrent
    twinSource := (Schema.has_insert_iff hother).mp hcurrent
    known := Schema.has_insert_iff htarget
    towards := by
      simp only [Resolution.towards, Schema.Index.incoming_of, List.filter_filter]
      exact (Schema.filter_edges_insert (by simp [hdeclarer])).symm
    awayFrom := by
      simp only [Resolution.awayFrom, Schema.Index.outgoing_of, List.filter_filter]
      exact (Schema.filter_edges_insert (by simp [howner])).symm
    named := by
      simp only [Resolution.named, Schema.Index.outgoing_of, List.filter_filter]
      exact (Schema.filter_edges_insert (by simp [howner])).symm
    referenced := by
      intro edge hedge
      obtain ⟨relation, hrelation, -, hkey⟩ :=
        Schema.mem_edges_iff.mp (mem_named_iff.mp hedge).1
      exact Schema.has_insert_iff (hreferenced relation hrelation edge.key hkey) }

end Resolution

namespace Shape

variable {before after : List Relation} {newcomer : Relation} {root : String} {nodes : List Node}

/-- With the newcomer and without it every node reads the same. -/
theorem parallel_insert (enums : List EnumType)
    (hrelations : ∀ relation ∈ before ++ after, relation.name ≠ newcomer.name)
    (hreferenced : ∀ relation ∈ before ++ after, ∀ key ∈ relation.keys,
      key.referenced ≠ newcomer.name) :
    Parallel .none ⟨before ++ after, enums⟩ ⟨before ++ newcomer :: after, enums⟩
      fun field twin => twin = field ∧ field.hint = none ∧ field.name ≠ newcomer.name := by
  have hnames : ∀ {name}, Schema.Has ⟨before ++ after, enums⟩ name → name ≠ newcomer.name := by
    intro name hhas
    obtain ⟨relation, hmem, rfl⟩ := hhas
    exact hrelations relation hmem
  exact {
    valueType := Schema.valueType_congr rfl
    relations := by
      intro name relation hfound
      refine ⟨relation, ?_, List.forall₂_same.mpr fun column _ => ⟨rfl, rfl, rfl⟩⟩
      rw [Schema.relation?_insert (hnames (Schema.has_of_relation? hfound)), hfound]
    fields := by
      intro field twin hfields
      rw [hfields.1]
      exact ⟨rfl, rfl⟩
    resolve := by
      intro current field twin hcurrent hfields
      obtain ⟨rfl, hhint, hname⟩ := hfields
      have hplaces := Resolution.samePlaces_insert hreferenced hcurrent (hnames hcurrent) hname
      have hchoice := hplaces.resolve hhint fun edges others h => by rw [h]
      refine hchoice.outcomes ?_
      intro edges others hedges
      rw [hedges]
      exact Failure.alike_refl _ }

/-- **A relation that nothing names changes no shape and no failure.** -/
theorem build_insert_unrelated (h : Unrelated newcomer (before ++ after) root nodes)
    (hhints : Unhinted nodes) (enums : List EnumType) :
    build (.of ⟨before ++ newcomer :: after, enums⟩) root nodes =
      build (.of ⟨before ++ after, enums⟩) root nodes := by
  have hparallel := parallel_insert enums h.newName h.unreferenced
  have houtcomes := hparallel.build (Schema.has_insert_iff h.newRoot)
    ((hhints.and h.unasked).paired fun field hfield => ⟨rfl, hfield⟩)
  generalize build (.of ⟨before ++ newcomer :: after, enums⟩) root nodes = extended at houtcomes ⊢
  generalize build (.of ⟨before ++ after, enums⟩) root nodes = found at houtcomes ⊢
  cases houtcomes with
  | error hfailure => rw [hfailure]
  | ok halike => rw [Shape.eq_of_alike _ _ halike]

/-- Notes about messages and people.  One of their keys is called like a column of the messages. -/
def notes : Relation :=
  ⟨"notes", .table, [⟨"message", "int8", false⟩, ⟨"person", "int8", false⟩],
    [⟨"sender", ["message"], "messages", ["id"], false⟩,
      ⟨"notes_person_fkey", ["person"], "people", ["id"], true⟩]⟩

/-- Notes can be added between the people and the messages.  Their keys point at both, and still the
sender is found and the people stay ambiguous between the same two keys. -/
theorem correspondence_beside_notes :
    Unrelated notes ([people] ++ [messages]) "messages" correspondence ∧
      Unhinted correspondence ∧
      build (.of ⟨[people] ++ notes :: [messages], []⟩) "messages" correspondence =
        build (.of ⟨[people] ++ [messages], []⟩) "messages" correspondence := by
  have hunrelated : Unrelated notes ([people] ++ [messages]) "messages" correspondence := {
    newRoot := by decide
    newName := by decide
    unreferenced := by decide
    unasked := by decide }
  have hhints : Unhinted correspondence := by decide
  exact ⟨hunrelated, hhints, build_insert_unrelated hunrelated hhints []⟩

end Shape

end GatewayQuery
