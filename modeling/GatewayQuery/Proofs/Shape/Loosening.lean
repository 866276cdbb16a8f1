/-
How nullability follows the schema and the joins.

A value may be missing because its column may be null, because a key that leads to it may be
null, because the join does not ask for a partner, or because it lies in a JSON document.  None
of these has a say in anything else: which key is taken, how many rows it leads to, which type a
value has and which failures there are.  So a schema in which more columns may be null, and an
expression in which fewer joins are inner, give the same tree of keys with the same types and the
same failures; and what could be null before can be null still.

An inner join hides the nullability of a key and a spread hands it down to all its columns, so
the two are loosened together here.
-/
import GatewayQuery.Proofs.Shape.Parallel

namespace GatewayQuery

open Select (Field Node AllPaired)

/-- A column as it is, or with null allowed. -/
def Column.Loosened (column twin : Column) : Prop :=
  twin = column ∨ twin = { column with nullable := true }

/-- A relation in which null is allowed in some more columns. -/
structure Relation.Loosened (relation twin : Relation) : Prop where
  name : twin.name = relation.name
  kind : twin.kind = relation.kind
  columns : List.Forall₂ Column.Loosened relation.columns twin.columns
  keys : twin.keys = relation.keys

/-- A schema in which null is allowed in some more columns. -/
structure Schema.Loosened (schema twin : Schema) : Prop where
  relations : List.Forall₂ Relation.Loosened schema.relations twin.relations
  enums : twin.enums = schema.enums

/-- A field as it is, or without its inner join. -/
def Select.Field.Loosened (field twin : Field) : Prop :=
  twin = field ∨ twin = { field with innerJoin := false }

/-- Shapes that differ in what may be null at most, and where the second is the more lenient. -/
def Tolerance.loosening : Tolerance where
  nullable := fun before after => before = true → after = true
  diagnosis := Eq
  nullable_refl := fun _ => id
  nullable_or := by
    intro a b c d hab hcd h
    rw [Bool.or_eq_true] at h ⊢
    exact h.imp hab hcd
  nullable_and := by
    intro a b c d hab hcd h
    rw [Bool.and_eq_true] at h ⊢
    exact h.imp hab hcd
  diagnosis_refl := fun _ => rfl

theorem Column.Loosened.alike {column twin : Column} (h : column.Loosened twin) :
    column.Alike .loosening twin := by
  obtain rfl | rfl := h
  · exact ⟨rfl, rfl, id⟩
  · exact ⟨rfl, rfl, fun _ => rfl⟩

theorem Select.Field.Loosened.alike {field twin : Field} (h : field.Loosened twin) :
    field.Alike .loosening twin := by
  obtain rfl | rfl := h
  · exact ⟨rfl, id⟩
  · exact ⟨rfl, fun _ => rfl⟩

namespace Schema

variable {schema twin : Schema}

theorem Loosened.relation? (h : schema.Loosened twin) (name : String) :
    Option.Rel Relation.Loosened (schema.relation? name) (twin.relation? name) := by
  refine find?_rel h.relations ?_
  intro relation other hrelation
  rw [hrelation.name]

theorem edgesOf_loosened {relations others : List Relation}
    (h : List.Forall₂ Relation.Loosened relations others) : edgesOf relations = edgesOf others := by
  induction h with
  | nil => rfl
  | @cons relation twin rest others hrelation hrest ih =>
    show relation.keys.map (Edge.mk relation.name) ++ edgesOf rest =
      twin.keys.map (Edge.mk twin.name) ++ edgesOf others
    rw [hrelation.name, hrelation.keys, ih]

end Schema

namespace Shape

variable {schema twin : Schema} {root : String} {nodes others : List Node}

/-- Nullability and joins decide no key. -/
theorem parallel_loosened (h : schema.Loosened twin) :
    Parallel .loosening schema twin Field.Loosened where
  valueType := Schema.valueType_congr h.enums.symm
  relations := by
    intro name relation hfound
    obtain ⟨other, hother, hrelation⟩ := Schema.exists_of_rel (h.relation? name) hfound
    exact ⟨other, hother, hrelation.columns.imp fun _ _ hcolumn => hcolumn.alike⟩
  fields := fun hfields => hfields.alike
  resolve := by
    intro current field other hcurrent hfields
    have hjoin : resolve (.of twin) current other = resolve (.of twin) current field := by
      obtain rfl | rfl := hfields
      · rfl
      · rfl
    have hhas : ∀ name, schema.Has name ↔ twin.Has name := by
      intro name
      exact Schema.has_iff_of_rel (h.relation? name)
    rw [hjoin, Resolution.resolve_congr hcurrent hhas (Schema.edgesOf_loosened h.relations)]
    exact Outcomes.refl Failure.alike_refl (fun _ => rfl) _

/-- **Null in more columns and fewer inner joins can only make more values nullable.**  The keys,
the types and the failures stay what they are, at every depth. -/
theorem build_loosened (h : schema.Loosened twin) (hnodes : AllPaired Field.Loosened nodes others)
    (root : String) :
    Outcomes Eq (Alike .loosening) (build (.of schema) root nodes) (build (.of twin) root others) :=
  (parallel_loosened h).build (Schema.has_iff_of_rel (h.relation? root)) hnodes

/-- Messages that may have no sender. -/
def messagesUnsigned : Relation :=
  { messages with columns :=
      [⟨"id", "int8", false⟩, ⟨"sender", "int8", true⟩, ⟨"reader", "int8", true⟩] }

/-- The correspondence without the inner join to the sender. -/
def correspondenceUnsigned : List Node :=
  .field (.column "id") [] ::
    .spread (.embedding "sender" none none false) [.field (.column "name") []] ::
      correspondence.drop 2

/-- The sender's name, which no message lacks, becomes nullable when both the column and the join
allow for no sender. -/
theorem correspondence_unsigned :
    Schema.Loosened ⟨[people, messages], []⟩ ⟨[people, messagesUnsigned], []⟩ ∧
      AllPaired Field.Loosened correspondence correspondenceUnsigned ∧
      ∃ shape other,
        build (.of ⟨[people, messages], []⟩) "messages" correspondence = .ok shape ∧
        build (.of ⟨[people, messagesUnsigned], []⟩) "messages" correspondenceUnsigned =
          .ok other ∧
        Alike .loosening shape other := by
  have hpeople : Relation.Loosened people people :=
    ⟨rfl, rfl, List.forall₂_same.mpr fun _ _ => .inl rfl, rfl⟩
  have hmessages : Relation.Loosened messages messagesUnsigned :=
    ⟨rfl, rfl, .cons (.inl rfl) (.cons (.inr rfl) (.cons (.inl rfl) .nil)), rfl⟩
  have hschema : Schema.Loosened ⟨[people, messages], []⟩ ⟨[people, messagesUnsigned], []⟩ :=
    ⟨.cons hpeople (.cons hmessages .nil), rfl⟩
  have hsame : ∀ {nodes}, Select.EveryFieldIn (fun _ => True) nodes →
      AllPaired Field.Loosened nodes nodes := fun h => h.paired fun _ _ => .inl rfl
  have hnodes : AllPaired Field.Loosened correspondence correspondenceUnsigned :=
    ⟨⟨.inl rfl, trivial⟩, ⟨.inr rfl, hsame (by decide)⟩, hsame (by decide)⟩
  have hbuild : build (.of ⟨[people, messages], []⟩) "messages" correspondence = .ok _ := rfl
  have hother : build (.of ⟨[people, messagesUnsigned], []⟩) "messages" correspondenceUnsigned =
      .ok _ := rfl
  refine ⟨hschema, hnodes, _, _, hbuild, hother, ?_⟩
  have halike := build_loosened hschema hnodes "messages"
  rw [hbuild, hother] at halike
  exact halike.value

end Shape

end GatewayQuery
