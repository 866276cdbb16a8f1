/-
What the order of declarations is worth.

Relations may be declared in any order, and so may the keys of a relation.  The tables over a
schema keep the order of declaration and look-ups take the first match, but where relations have
different names there is one match at most; and where several keys are found, none of them is
taken.  So the order decides nothing.  It shows in one place: an ambiguity lists its candidates
as they are declared, in its context and in the sentence that suggests them.

The columns of a relation are another matter: a star writes them in their order.
-/
import GatewayQuery.Proofs.Shape.Parallel

namespace GatewayQuery

open Schema (Edge)
open Select (Field Node Unhinted)

/-- A relation with its keys in another order. -/
structure Relation.Reordered (relation twin : Relation) : Prop where
  name : twin.name = relation.name
  kind : twin.kind = relation.kind
  columns : twin.columns = relation.columns
  keys : twin.keys.Perm relation.keys

/-- A schema with its relations in another order, and the keys of each. -/
structure Schema.Reordered (schema twin : Schema) : Prop where
  relations : ∃ moved, moved.Perm schema.relations ∧
    List.Forall₂ Relation.Reordered moved twin.relations
  enums : twin.enums = schema.enums

/-- A diagnosis whose candidates may stand in another order. -/
structure Diagnosis.Reordered (diagnosis twin : Diagnosis) : Prop where
  kind : twin.kind = diagnosis.kind
  message : twin.message = diagnosis.message
  relation : twin.context.relation = diagnosis.context.relation
  target : twin.context.target = diagnosis.context.target
  candidates : twin.context.candidates.Perm diagnosis.context.candidates

/-- Shapes that differ in the order of candidates at most. -/
def Tolerance.reordering : Tolerance :=
  .ofDiagnosis Diagnosis.Reordered fun _ => ⟨rfl, rfl, rfl, rfl, .refl _⟩

namespace Schema

variable {schema twin : Schema}

/-- Relations with different names are found wherever they stand. -/
theorem relation?_perm {moved : Schema} (hperm : moved.relations.Perm schema.relations)
    (hdistinct : (schema.relations.map (·.name)).Nodup) (name : String) :
    moved.relation? name = schema.relation? name := by
  have hmoved : (moved.relations.map (·.name)).Nodup := (hperm.map _).nodup_iff.mpr hdistinct
  refine Option.ext ?_
  intro relation
  rw [relation?_eq_some_iff hmoved, relation?_eq_some_iff hdistinct, hperm.mem_iff]

theorem edgesOf_reordered {moved others : List Relation}
    (h : List.Forall₂ Relation.Reordered moved others) : (edgesOf others).Perm (edgesOf moved) := by
  induction h with
  | nil => exact .refl _
  | @cons relation twin rest others hrelation hrest ih =>
    show (twin.keys.map (Edge.mk twin.name) ++ edgesOf others).Perm
      (relation.keys.map (Edge.mk relation.name) ++ edgesOf rest)
    rw [hrelation.name]
    exact (hrelation.keys.map _).append ih

theorem Reordered.edges (h : schema.Reordered twin) : twin.edges.Perm schema.edges := by
  obtain ⟨moved, hperm, hmoved⟩ := h.relations
  exact (edgesOf_reordered hmoved).trans (hperm.flatMap_right _)

/-- Under a name the same relation is found, but for the order of its keys. -/
theorem Reordered.relation? (h : schema.Reordered twin)
    (hdistinct : (schema.relations.map (·.name)).Nodup) (name : String) :
    Option.Rel Relation.Reordered (schema.relation? name) (twin.relation? name) := by
  obtain ⟨moved, hperm, hmoved⟩ := h.relations
  rw [← relation?_perm (show (Schema.mk moved schema.enums).relations.Perm _ from hperm) hdistinct]
  refine find?_rel hmoved ?_
  intro relation twin hrelation
  rw [hrelation.name]

end Schema

namespace Resolution

variable {schema twin : Schema} {current target : String}

/-- In another order of the declarations the same keys are found in every place. -/
theorem samePlaces_reordered (h : schema.Reordered twin)
    (hdistinct : (schema.relations.map (·.name)).Nodup) (hcurrent : schema.Has current)
    (target : String) :
    SamePlaces List.Perm schema twin current target := by
  have hhas : ∀ name, schema.Has name ↔ twin.Has name := by
    intro name
    exact Schema.has_iff_of_rel (h.relation? hdistinct name)
  exact {
    source := hcurrent
    twinSource := (hhas current).mp hcurrent
    known := hhas target
    towards := by
      simp only [Resolution.towards, Schema.Index.incoming_of]
      exact ((h.edges.filter _).filter _).symm
    awayFrom := by
      simp only [Resolution.awayFrom, Schema.Index.outgoing_of]
      exact ((h.edges.filter _).filter _).symm
    named := by
      simp only [Resolution.named, Schema.Index.outgoing_of]
      exact ((h.edges.filter _).filter _).symm
    referenced := fun edge _ => hhas edge.key.referenced }

theorem ambiguous_reordered {edges others : List Edge} (h : edges.Perm others) :
    Failure.Alike .reordering (.ambiguous current target (edges.map candidate))
      (.ambiguous current target (others.map candidate)) :=
  { kind := rfl
    message := rfl
    relation := rfl
    target := rfl
    candidates := (h.map candidate).symm }

end Resolution

namespace Shape

variable {schema twin : Schema} {root : String} {nodes : List Node}

/-- Under another order of the declarations every node reads the same. -/
theorem parallel_reordered (h : schema.Reordered twin)
    (hdistinct : (schema.relations.map (·.name)).Nodup) :
    Parallel .reordering schema twin fun field other => other = field ∧ field.hint = none where
  valueType := Schema.valueType_congr h.enums.symm
  relations := by
    intro name relation hfound
    obtain ⟨other, hother, hrelation⟩ := Schema.exists_of_rel (h.relation? hdistinct name) hfound
    refine ⟨other, hother, ?_⟩
    rw [hrelation.columns]
    exact List.forall₂_same.mpr fun column _ => ⟨rfl, rfl, rfl⟩
  fields := by
    intro field other hfields
    rw [hfields.1]
    exact ⟨rfl, rfl⟩
  resolve := by
    intro current field other hcurrent hfields
    obtain ⟨rfl, hhint⟩ := hfields
    have hplaces := Resolution.samePlaces_reordered h hdistinct hcurrent other.name
    exact (hplaces.resolve hhint fun _ _ h => h).outcomes Resolution.ambiguous_reordered

/-- **The order of declarations shows in the order of candidates only.** -/
theorem build_reordered (h : schema.Reordered twin)
    (hdistinct : (schema.relations.map (·.name)).Nodup) (hhints : Unhinted nodes) (root : String) :
    Outcomes Eq (Alike .reordering) (build (.of schema) root nodes)
      (build (.of twin) root nodes) :=
  (parallel_reordered h hdistinct).build (Schema.has_iff_of_rel (h.relation? hdistinct root))
    (hhints.paired fun _ hhint => ⟨rfl, hhint⟩)

/-- The keys of the messages in another order. -/
def messagesReordered : Relation := { messages with keys := messages.keys.reverse }

/-- With the messages declared before the people, and their keys in another order, the people of a
message are ambiguous between the same two keys, and all else is as before. -/
theorem correspondence_reordered :
    Schema.Reordered ⟨[people, messages], []⟩ ⟨[messagesReordered, people], []⟩ ∧
      ([people, messages].map (·.name)).Nodup ∧ Unhinted correspondence ∧
      ∃ shape other,
        build (.of ⟨[people, messages], []⟩) "messages" correspondence = .ok shape ∧
        build (.of ⟨[messagesReordered, people], []⟩) "messages" correspondence = .ok other ∧
        Alike .reordering shape other := by
  have hreordered : Schema.Reordered ⟨[people, messages], []⟩ ⟨[messagesReordered, people], []⟩ := {
    relations := ⟨[messages, people], .swap _ _ _,
      .cons ⟨rfl, rfl, rfl, List.reverse_perm _⟩ (.cons ⟨rfl, rfl, rfl, .refl _⟩ .nil)⟩
    enums := rfl }
  have hdistinct : ([people, messages].map (·.name)).Nodup := by decide
  have hhints : Unhinted correspondence := by decide
  have hbuild : build (.of ⟨[people, messages], []⟩) "messages" correspondence = .ok _ := rfl
  have hother : build (.of ⟨[messagesReordered, people], []⟩) "messages" correspondence = .ok _ :=
    rfl
  refine ⟨hreordered, hdistinct, hhints, _, _, hbuild, hother, ?_⟩
  have halike := build_reordered hreordered hdistinct hhints "messages"
  rw [hbuild, hother] at halike
  exact halike.value

end Shape

end GatewayQuery
