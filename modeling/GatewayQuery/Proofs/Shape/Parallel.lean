/-
Two shapes built side by side.

Several statements about shapes compare two builds: before and after a relation is added, under
two orders of the declarations, before and after columns and joins are loosened.  They differ in
why a field resolves to the same key on both sides, and agree in all that follows from it.
`Parallel` is what they have to bring along, one fact for each thing that a node reads; what is
proved from it is that the two shapes are alike.

The induction is on the nodes, for all relations at once, because an embedding goes on with the
relation that it leads to.  What carries it is that the nodes add the same embeddings to their
level on both sides, so that the same ones repeat others.
-/
import GatewayQuery.Proofs.Resolution.Places
import GatewayQuery.Proofs.Resolution.Soundness
import GatewayQuery.Proofs.Schema.ValueType
import GatewayQuery.Proofs.Select.Fields
import GatewayQuery.Proofs.Shape.Alike
import GatewayQuery.Proofs.Shape.Writes

namespace GatewayQuery

open Select (Field Node)

variable {tolerance : Tolerance}

/-- Columns that differ in their nullability at most. -/
structure Column.Alike (tolerance : Tolerance) (column twin : Column) : Prop where
  name : column.name = twin.name
  dataType : column.dataType = twin.dataType
  nullable : tolerance.nullable column.nullable twin.nullable

/-- Fields that differ in their join at most.  A join that is not inner is one that lets a value be
missing. -/
structure Select.Field.Alike (tolerance : Tolerance) (field twin : Field) : Prop where
  same : twin = { field with innerJoin := twin.innerJoin }
  join : tolerance.nullable (!field.innerJoin) (!twin.innerJoin)

/-- Failures with diagnoses that are alike. -/
def Failure.Alike (tolerance : Tolerance) (failure twin : Failure) : Prop :=
  tolerance.diagnosis failure.diagnosis twin.diagnosis

theorem Failure.alike_refl (failure : Failure) : failure.Alike tolerance failure :=
  tolerance.diagnosis_refl failure.diagnosis

/-- Look-ups that end the same way, but for keys whose ambiguity is tolerated. -/
theorem Resolution.SameChoice.outcomes {α : Type}
    {Keys : List Schema.Edge → List Schema.Edge → Prop}
    {current target : String} {found other : Except Failure α}
    (h : SameChoice Keys current target found other)
    (hkeys : ∀ {edges others}, Keys edges others →
      Failure.Alike tolerance (.ambiguous current target (edges.map candidate))
        (.ambiguous current target (others.map candidate))) :
    Outcomes (Failure.Alike tolerance) Eq found other := by
  obtain rfl | ⟨edges, others, hedges, rfl, rfl⟩ := h
  · exact .refl Failure.alike_refl (fun _ => rfl) found
  · exact .error (hkeys hedges)

/-- What two schemas have to agree on for expressions whose fields are related. -/
structure Parallel (tolerance : Tolerance) (schema twin : Schema) (Fields : Field → Field → Prop) :
    Prop where
  /-- A database type is the same type of values. -/
  valueType : schema.valueType = twin.valueType
  /-- What is a relation of the one is a relation of the other, with the same columns. -/
  relations : ∀ {name relation}, schema.relation? name = some relation →
    ∃ other, twin.relation? name = some other ∧
      List.Forall₂ (Column.Alike tolerance) relation.columns other.columns
  fields : ∀ {field other}, Fields field other → field.Alike tolerance other
  /-- A field resolves to the same key, or fails alike. -/
  resolve : ∀ {current field other}, schema.Has current → Fields field other →
    Outcomes (Failure.Alike tolerance) Eq (GatewayQuery.resolve (.of schema) current field)
      (GatewayQuery.resolve (.of twin) current other)

namespace Shape

/-! ### Columns -/

/-- A look-up by name finds columns that are alike, or none on both sides. -/
theorem column?_alike {relation other : Relation}
    (h : List.Forall₂ (Column.Alike tolerance) relation.columns other.columns) (name : String) :
    Option.Rel (Column.Alike tolerance) (relation.column? name) (other.column? name) := by
  refine Schema.find?_rel h ?_
  intro column twin hcolumn
  rw [hcolumn.name]

/-- Whether a key may lead nowhere depends on the columns that it has. -/
theorem nullable_key {relation other : Relation}
    (h : List.Forall₂ (Column.Alike tolerance) relation.columns other.columns)
    (names : List String) :
    tolerance.nullable
      (names.any fun name => ((relation.column? name).map (·.nullable)).getD true)
      (names.any fun name => ((other.column? name).map (·.nullable)).getD true) := by
  induction names with
  | nil => exact tolerance.nullable_refl false
  | cons name rest ih =>
    rw [List.any_cons, List.any_cons]
    refine tolerance.nullable_or ?_ ih
    have hfound := column?_alike h name
    generalize relation.column? name = found at hfound ⊢
    generalize other.column? name = otherFound at hfound ⊢
    cases hfound with
    | none => exact tolerance.nullable_refl true
    | some hcolumn => exact hcolumn.nullable

theorem star_alike {schema twin : Schema} (hvalue : schema.valueType = twin.valueType)
    {columns others : List Column} (h : List.Forall₂ (Column.Alike tolerance) columns others) :
    Alike tolerance (columns.map fun column => (column.name, columnEntry schema column))
      (others.map fun column => (column.name, columnEntry twin column)) := by
  rw [alike_iff_forall₂, List.forall₂_map_left_iff, List.forall₂_map_right_iff]
  refine h.imp ?_
  intro column other hcolumn
  refine ⟨hcolumn.name, ?_, hcolumn.nullable⟩
  rw [hcolumn.dataType, hvalue]
  exact ValueType.alike_refl _

/-! ### Leaves -/

/-- A type with its nullability, and the same type with one that is tolerated. -/
def TypesAlike (tolerance : Tolerance) (found other : ValueType × Bool) : Prop :=
  found.1 = other.1 ∧ tolerance.nullable found.2 other.2

theorem typesAlike_refl (found : ValueType × Bool) : TypesAlike tolerance found found :=
  ⟨rfl, tolerance.nullable_refl found.2⟩

theorem leafType_alike {schema twin : Schema} (hvalue : schema.valueType = twin.valueType)
    {relation other : Relation} (hname : relation.name = other.name)
    (h : List.Forall₂ (Column.Alike tolerance) relation.columns other.columns)
    (field : Field) (innerJoin : Bool) :
    Outcomes Eq (TypesAlike tolerance) (leafType schema relation field)
      (leafType twin other { field with innerJoin := innerJoin }) := by
  have hfound := column?_alike h field.name
  unfold leafType
  rw [← hname, ← hvalue]
  generalize relation.column? field.name = found at hfound ⊢
  generalize other.column? field.name = otherFound at hfound ⊢
  cases hfound with
  | none => exact Outcomes.refl (fun _ => rfl) typesAlike_refl _
  | @some column twin hcolumn =>
    cases field.aggregate with
    | some aggregate =>
      simp only [Option.isNone_some, Bool.and_false, Bool.false_and, Bool.false_eq_true, if_false]
      exact .ok (typesAlike_refl _)
    | none =>
      cases field.jsonPath with
      | some path => exact .ok (typesAlike_refl _)
      | none =>
        refine .ok ⟨?_, hcolumn.nullable⟩
        simp only [hcolumn.dataType]

theorem leafEntry_alike {schema twin : Schema} (hvalue : schema.valueType = twin.valueType)
    {relation other : Relation} (hname : relation.name = other.name)
    (h : List.Forall₂ (Column.Alike tolerance) relation.columns other.columns)
    (field : Field) (innerJoin : Bool) :
    (leafEntry schema relation field).Alike tolerance
      (leafEntry twin other { field with innerJoin := innerJoin }) := by
  unfold leafEntry
  have houtcomes := leafType_alike hvalue hname h field innerJoin
  generalize leafType schema relation field = found at houtcomes ⊢
  generalize leafType twin other { field with innerJoin := innerJoin } = otherFound at houtcomes ⊢
  cases houtcomes with
  | @ok found other htypes =>
    obtain ⟨htype, hnullable⟩ := htypes
    refine ⟨?_, hnullable⟩
    rw [htype]
    exact ValueType.alike_refl _
  | error hfailure =>
    rw [hfailure]
    exact tolerance.diagnosis_refl _

end Shape

/-! ### Embeddings -/

/-- Relations that are found under the same name on both sides. -/
structure Twins (tolerance : Tolerance) (schema twin : Schema) (relation other : Relation) :
    Prop where
  found : schema.relation? relation.name = some relation
  otherFound : twin.relation? relation.name = some other
  name : other.name = relation.name
  columns : List.Forall₂ (Column.Alike tolerance) relation.columns other.columns

/-- Embeddings that travel the same key and lead to rows that are alike. -/
structure Shape.Embedded.Alike (tolerance : Tolerance) (embedded twin : Shape.Embedded) : Prop where
  resolution : embedded.resolution = twin.resolution
  cardinality : embedded.cardinality = twin.cardinality
  nullable : tolerance.nullable embedded.nullable twin.nullable
  child : Shape.Alike tolerance embedded.child twin.child

variable {schema twin : Schema} {Fields : Field → Field → Prop} {relation other : Relation}

theorem Parallel.twins (h : Parallel tolerance schema twin Fields) {name : String}
    (hfound : schema.relation? name = some relation) :
    ∃ other, twin.relation? name = some other ∧ Twins tolerance schema twin relation other := by
  obtain ⟨other, hother, hcolumns⟩ := h.relations hfound
  obtain rfl := Schema.name_of_relation? hfound
  exact ⟨other, hother, hfound, hother, Schema.name_of_relation? hother, hcolumns⟩

/-- How many rows a key leads to depends on the key, and whether there may be none on its columns
and the join. -/
theorem Twins.cardinality (h : Twins tolerance schema twin relation other) {resolution : Resolution}
    (hsource : resolution.source = relation.name) {innerJoin otherJoin : Bool}
    (hjoin : tolerance.nullable (!innerJoin) (!otherJoin)) :
    (resolution.cardinality (.of schema) innerJoin).1 =
        (resolution.cardinality (.of twin) otherJoin).1 ∧
      tolerance.nullable (resolution.cardinality (.of schema) innerJoin).2
        (resolution.cardinality (.of twin) otherJoin).2 := by
  unfold Resolution.cardinality
  simp only [Schema.Index.relation?_of, hsource, h.found, h.otherFound]
  cases resolution.direction with
  | forward => exact ⟨rfl, tolerance.nullable_and (Shape.nullable_key h.columns _) hjoin⟩
  | reverse =>
    cases resolution.key.oneToOne with
    | true => exact ⟨rfl, hjoin⟩
    | false => exact ⟨rfl, tolerance.nullable_refl false⟩

/-- An embedding travels the same key on both sides, or fails alike. -/
theorem Parallel.embed (h : Parallel tolerance schema twin Fields)
    (htwins : Twins tolerance schema twin relation other) {field otherField : Field}
    (hfields : Fields field otherField) {child otherChild : Relation → Shape}
    (hchild : ∀ target otherTarget, Twins tolerance schema twin target otherTarget →
      Shape.Alike tolerance (child target) (otherChild otherTarget)) :
    Outcomes (Failure.Alike tolerance) (Shape.Embedded.Alike tolerance)
      (Shape.embed (.of schema) relation field child)
      (Shape.embed (.of twin) other otherField otherChild) := by
  have houtcomes := h.resolve (Schema.has_of_relation? htwins.found) hfields
  unfold Shape.embed
  rw [htwins.name]
  cases hresolve : GatewayQuery.resolve (.of schema) relation.name field with
  | error failure =>
    rw [hresolve] at houtcomes
    generalize GatewayQuery.resolve (.of twin) relation.name otherField = found at houtcomes ⊢
    cases houtcomes with
    | error hfailure => exact .error hfailure
  | ok resolution =>
    have hsound := resolution_sound hresolve
    rw [hresolve] at houtcomes
    generalize GatewayQuery.resolve (.of twin) relation.name otherField = found at houtcomes ⊢
    cases houtcomes with
    | ok hsame =>
      subst hsame
      obtain ⟨target, htarget, -⟩ := Schema.relation?_of_has hsound.targetKnown
      obtain ⟨otherTarget, hother, htargets⟩ := h.twins htarget
      have hcardinality := htwins.cardinality hsound.source (h.fields hfields).join
      simp only [Schema.Index.relation?_of, htarget, hother]
      exact .ok {
        resolution := rfl
        cardinality := hcardinality.1
        nullable := hcardinality.2
        child := hchild target otherTarget htargets }

/-! ### What the nodes write -/

namespace Shape

theorem embeddingResolved_alike {field otherField : Field}
    (hfields : field.Alike tolerance otherField) {found otherFound : Except Failure Embedded}
    (h : Outcomes (Failure.Alike tolerance) (Embedded.Alike tolerance) found otherFound) :
    embeddingResolved field found = embeddingResolved otherField otherFound := by
  cases h with
  | error hfailure => rfl
  | ok hembedded =>
    rw [hfields.same]
    simp only [embeddingResolved, hembedded.resolution]
    rfl

theorem entry_alike {embedded otherEmbedded : Embedded}
    (h : embedded.Alike tolerance otherEmbedded) :
    embedded.entry.Alike tolerance otherEmbedded.entry := by
  unfold Embedded.entry
  rw [← h.cardinality]
  cases embedded.cardinality with
  | many => exact ⟨h.child, tolerance.nullable_refl false⟩
  | one => exact ⟨h.child, h.nullable⟩

theorem embeddingWrites_alike (hname : other.name = relation.name) (earlier : Resolved)
    (isEmpty : Bool) {field otherField : Field} (hfields : field.Alike tolerance otherField)
    {found otherFound : Except Failure Embedded}
    (h : Outcomes (Failure.Alike tolerance) (Embedded.Alike tolerance) found otherFound) :
    Alike tolerance (embeddingWrites relation earlier field isEmpty found)
      (embeddingWrites other earlier otherField isEmpty otherFound) := by
  rw [hfields.same]
  cases h with
  | error hfailure => exact alike_singleton hfailure
  | @ok embedded otherEmbedded hembedded =>
    have hrepeated : repeated earlier { field with innerJoin := otherField.innerJoin } =
        repeated earlier field := rfl
    unfold embeddingWrites
    simp only [hrepeated, ← hembedded.resolution, hname]
    by_cases hrepeats : repeated earlier field embedded.resolution = true
    · rw [if_pos hrepeats, if_pos hrepeats]
      exact alike_refl _
    · rw [if_neg hrepeats, if_neg hrepeats]
      cases isEmpty with
      | true => trivial
      | false => exact alike_singleton (entry_alike hembedded)

theorem spreadWrites_alike (hname : other.name = relation.name) {field otherField : Field}
    (hfields : field.Alike tolerance otherField) {found otherFound : Except Failure Embedded}
    (h : Outcomes (Failure.Alike tolerance) (Embedded.Alike tolerance) found otherFound) :
    Alike tolerance (spreadWrites relation field found)
      (spreadWrites other otherField otherFound) := by
  rw [hfields.same]
  cases h with
  | error hfailure => exact alike_singleton hfailure
  | @ok embedded otherEmbedded hembedded =>
    unfold spreadWrites
    simp only [← hembedded.cardinality, ← hembedded.resolution, hname]
    cases embedded.cardinality with
    | many => exact alike_refl _
    | one =>
      rw [columns_eq_within, columns_eq_within]
      exact alike_within hembedded.nullable hembedded.child

theorem embedding_alike (h : Parallel tolerance schema twin Fields)
    (htwins : Twins tolerance schema twin relation other) {field otherField : Field}
    (hfields : Fields field otherField) {children otherChildren : List Node}
    (hchildren : ∀ target otherTarget, Twins tolerance schema twin target otherTarget →
      Alike tolerance (allWrites (.of schema) target [] children)
        (allWrites (.of twin) otherTarget [] otherChildren)) :
    Outcomes (Failure.Alike tolerance) (Embedded.Alike tolerance)
      (embedding (.of schema) relation field children)
      (embedding (.of twin) other otherField otherChildren) := by
  refine h.embed htwins hfields ?_
  intro target otherTarget htargets
  rw [ofLevel_eq, ofLevel_eq]
  exact alike_merge trivial (hchildren target otherTarget htargets)

end Shape

open Shape

mutual

/-- A node writes alike on both sides, and adds the same embeddings. -/
theorem Parallel.node (h : Parallel tolerance schema twin Fields) {relation other : Relation}
    (htwins : Twins tolerance schema twin relation other) (earlier : Resolved) :
    ∀ {node otherNode : Node}, Select.Paired Fields node otherNode →
      Shape.Alike tolerance (writes (.of schema) relation earlier node)
          (writes (.of twin) other earlier otherNode) ∧
        resolved (.of schema) relation node = resolved (.of twin) other otherNode
  | .star, otherNode, hnodes => by
    rw [Select.paired_star hnodes]
    refine ⟨?_, rfl⟩
    rw [writes, writes, Schema.Index.schema_of, Schema.Index.schema_of]
    exact star_alike h.valueType htwins.columns
  | .field field children, otherNode, hnodes => by
    obtain ⟨otherField, otherChildren, rfl, hfields, hchildren⟩ := Select.paired_field hnodes
    have halike := h.fields hfields
    have hembeds : otherField.embedded = field.embedded := by rw [halike.same]
    have hembedding := embedding_alike h htwins hfields fun target otherTarget htargets =>
      h.nodes htargets [] hchildren
    rw [writes, writes, resolved, resolved, hembeds]
    by_cases hembedded : field.embedded = true
    · rw [if_pos hembedded, if_pos hembedded, if_pos hembedded, if_pos hembedded,
        hchildren.isEmpty]
      exact ⟨embeddingWrites_alike htwins.name earlier children.isEmpty halike hembedding,
        embeddingResolved_alike halike hembedding⟩
    · rw [if_neg hembedded, if_neg hembedded, if_neg hembedded, if_neg hembedded]
      refine ⟨?_, rfl⟩
      rw [halike.same, Schema.Index.schema_of, Schema.Index.schema_of]
      exact alike_singleton
        (leafEntry_alike h.valueType htwins.name.symm htwins.columns field otherField.innerJoin)
  | .spread target children, otherNode, hnodes => by
    obtain ⟨otherTarget, otherChildren, rfl, hfields, hchildren⟩ := Select.paired_spread hnodes
    have hembedding := embedding_alike h htwins hfields fun row otherRow hrows =>
      h.nodes hrows [] hchildren
    rw [writes, writes]
    exact ⟨spreadWrites_alike htwins.name (h.fields hfields) hembedding, rfl⟩

theorem Parallel.nodes (h : Parallel tolerance schema twin Fields) {relation other : Relation}
    (htwins : Twins tolerance schema twin relation other) (earlier : Resolved) :
    ∀ {nodes others : List Node}, Select.AllPaired Fields nodes others →
      Shape.Alike tolerance (allWrites (.of schema) relation earlier nodes)
        (allWrites (.of twin) other earlier others)
  | [], others, hnodes => by
    rw [Select.allPaired_nil hnodes, allWrites, allWrites]
    trivial
  | node :: rest, others, hnodes => by
    obtain ⟨otherNode, otherRest, rfl, hnode, hrest⟩ := Select.allPaired_cons hnodes
    obtain ⟨hwrites, hresolved⟩ := h.node htwins earlier hnode
    rw [allWrites, allWrites, ← hresolved]
    exact alike_append hwrites (h.nodes htwins _ hrest)

end

/-- **Two builds that agree on what each node reads give shapes that are alike.** -/
theorem Parallel.build (h : Parallel tolerance schema twin Fields) {root : String}
    (hroot : schema.Has root ↔ twin.Has root) {nodes others : List Node}
    (hnodes : Select.AllPaired Fields nodes others) :
    Outcomes Eq (Shape.Alike tolerance) (Shape.build (.of schema) root nodes)
      (Shape.build (.of twin) root others) := by
  unfold Shape.build
  simp only [Schema.Index.relation?_of]
  by_cases hknown : schema.Has root
  · obtain ⟨relation, hrelation, -⟩ := Schema.relation?_of_has hknown
    obtain ⟨other, hother, htwins⟩ := h.twins hrelation
    rw [hrelation, hother]
    refine .ok ?_
    rw [ofLevel_eq, ofLevel_eq]
    exact alike_merge trivial (h.nodes htwins [] hnodes)
  · rw [Schema.relation?_eq_none_iff.mpr hknown,
      Schema.relation?_eq_none_iff.mpr fun hother => hknown (hroot.mpr hother)]
    exact .error rfl

/-! ### An expression to compare -/

namespace Shape

def people : Relation := ⟨"people", .table, [⟨"id", "int8", false⟩, ⟨"name", "text", false⟩], []⟩

/-- Messages, with two keys to people. -/
def messages : Relation :=
  ⟨"messages", .table,
    [⟨"id", "int8", false⟩, ⟨"sender", "int8", false⟩, ⟨"reader", "int8", true⟩],
    [⟨"messages_sender_fkey", ["sender"], "people", ["id"], false⟩,
      ⟨"messages_reader_fkey", ["reader"], "people", ["id"], false⟩]⟩

/-- Messages with the name of the sender, the row of the reader, and people who may be either. -/
def correspondence : List Node := [
  .field (.column "id") [],
  .spread (.embedding "sender" none none true) [.field (.column "name") []],
  .field (.embedding "reader" none none false) [.star],
  .field (.embedding "people" none none false)
    [.field (.embedding "messages" none none false) [.star]]]

end Shape

end GatewayQuery
