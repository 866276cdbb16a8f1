/-
A level as the list of what its nodes write.

The nodes of a level share the shape that they write into and the embeddings that were
resolved so far.  None of them ever reads the shape, and of the embeddings a node asks only
whether one under its own key went the same way.  So what a node writes depends on the
embeddings before it alone, and the shape of a level is the empty shape with what its nodes
write merged into it, one after the other.  What is proved of a level is proved of this list.

What all entries of a shape have in common is settled by what a node can write, and the induction
over the nodes is the same whatever that is.  It is done here once, for a property that each way of
writing an entry keeps.
-/
import GatewayQuery.Shape.Build
import GatewayQuery.Proofs.Shape.Merge

namespace GatewayQuery.Shape

open Schema (Index)
open Select (Field Node)

/-- Embeddings that were resolved, with their keys. -/
abbrev Resolved := List (String × Resolution)

/-- An embedding with the shape of its nodes. -/
def embedding (index : Index) (relation : Relation) (field : Field) (children : List Node) :
    Except Failure Embedded :=
  embed index relation field fun target => ofLevel index target children

/-- What an embedding adds to those of its level. -/
def embeddingResolved (field : Field) : Except Failure Embedded → Resolved
  | .error _ => []
  | .ok embedded => [(field.outputName, embedded.resolution)]

/-- What a node adds to the embeddings of its level. -/
def resolved (index : Index) (relation : Relation) : Node → Resolved
  | .star => []
  | .field field children =>
    if field.embedded then embeddingResolved field (embedding index relation field children)
    else []
  | .spread _ _ => []

/-- Whether an embedding without a hint repeats one before it. -/
def repeated (earlier : Resolved) (field : Field) (resolution : Resolution) : Bool :=
  field.hint.isNone &&
    earlier.any fun (key, other) => key == field.outputName && other.sameAs resolution

/-- What an embedding writes behind other embeddings. -/
def embeddingWrites (relation : Relation) (earlier : Resolved) (field : Field) (isEmpty : Bool) :
    Except Failure Embedded → Shape
  | .error failure => [(field.outputName, .ofFailure failure)]
  | .ok embedded =>
    if repeated earlier field embedded.resolution then
      [(field.outputName,
        .ofFailure (.duplicateEmbedding relation.name embedded.resolution.target))]
    else if isEmpty then []
    else [(field.outputName, embedded.entry)]

/-- What a spread writes. -/
def spreadWrites (relation : Relation) (target : Field) : Except Failure Embedded → Shape
  | .error failure => [(target.outputName, .ofFailure failure)]
  | .ok embedded =>
    match embedded.cardinality with
    | .many =>
      [(target.outputName, .ofFailure (.illegalSpread relation.name embedded.resolution.target))]
    | .one => embedded.columns

/-- What a node writes behind the embeddings before it. -/
def writes (index : Index) (relation : Relation) (earlier : Resolved) : Node → Shape
  | .star =>
    relation.columns.map fun column => (column.name, columnEntry index.schema column)
  | .field field children =>
    if field.embedded then
      embeddingWrites relation earlier field children.isEmpty
        (embedding index relation field children)
    else [(field.outputName, leafEntry index.schema relation field)]
  | .spread target children =>
    spreadWrites relation target (embedding index relation target children)

/-- What some nodes write, one after the other. -/
def allWrites (index : Index) (relation : Relation) (earlier : Resolved) : List Node → Shape
  | [] => []
  | node :: rest =>
    writes index relation earlier node ++
      allWrites index relation (earlier ++ resolved index relation node) rest

variable {index : Index} {relation : Relation}

theorem writeStar_eq (level : Level) (schema : Schema) (columns : List Column) :
    columns.foldl (fun level column => level.write column.name (columnEntry schema column)) level =
      ⟨merge level.shape (columns.map fun column => (column.name, columnEntry schema column)),
        level.embedded⟩ := by
  induction columns generalizing level with
  | nil => rfl
  | cons column rest ih =>
    rw [List.foldl_cons, ih]
    rfl

theorem writeEmbedding_eq (level : Level) (field : Field) (isEmpty : Bool)
    (found : Except Failure Embedded) :
    level.writeEmbedding relation field isEmpty found =
      ⟨merge level.shape (embeddingWrites relation level.embedded field isEmpty found),
        level.embedded ++ embeddingResolved field found⟩ := by
  cases found with
  | error failure =>
    rw [embeddingResolved, List.append_nil]
    rfl
  | ok embedded =>
    have hrepeats : level.repeats field embedded.resolution =
        repeated level.embedded field embedded.resolution := rfl
    unfold Level.writeEmbedding embeddingWrites
    simp only [hrepeats]
    cases repeated level.embedded field embedded.resolution with
    | true => rfl
    | false => cases isEmpty <;> rfl

theorem writeSpread_eq (level : Level) (target : Field) (found : Except Failure Embedded) :
    level.writeSpread relation target found =
      ⟨merge level.shape (spreadWrites relation target found), level.embedded⟩ := by
  cases found with
  | error failure => rfl
  | ok embedded =>
    obtain ⟨resolution, cardinality, nullable, child⟩ := embedded
    cases cardinality with
    | one => rfl
    | many => rfl

/-- A node merges what it writes into the shape of the level. -/
theorem addNode_eq (level : Level) (node : Node) :
    addNode index relation level node =
      ⟨merge level.shape (writes index relation level.embedded node),
        level.embedded ++ resolved index relation node⟩ := by
  cases node with
  | star =>
    rw [addNode, resolved, List.append_nil]
    exact writeStar_eq level index.schema relation.columns
  | field field children =>
    rw [addNode, writes, resolved]
    by_cases hembedded : field.embedded = true
    · rw [if_pos hembedded, if_pos hembedded, if_pos hembedded]
      exact writeEmbedding_eq level field children.isEmpty _
    · rw [if_neg hembedded, if_neg hembedded, if_neg hembedded, List.append_nil]
      rfl
  | spread target children =>
    rw [addNode, resolved, List.append_nil]
    exact writeSpread_eq level target _

theorem addNodes_eq (level : Level) (nodes : List Node) :
    addNodes index relation level nodes =
      ⟨merge level.shape (allWrites index relation level.embedded nodes),
        level.embedded ++ nodes.flatMap (resolved index relation)⟩ := by
  induction nodes generalizing level with
  | nil =>
    rw [addNodes, List.flatMap_nil, List.append_nil]
    rfl
  | cons node rest ih =>
    rw [addNodes, addNode_eq, ih, allWrites, merge_append, List.flatMap_cons, List.append_assoc]

/-- **The shape of a level is what its nodes write, merged in order.** -/
theorem ofLevel_eq (nodes : List Node) :
    ofLevel index relation nodes = merge empty (allWrites index relation [] nodes) := by
  unfold ofLevel
  rw [addNodes_eq]
  rfl

theorem allWrites_append (earlier : Resolved) (first second : List Node) :
    allWrites index relation earlier (first ++ second) =
      allWrites index relation earlier first ++
        allWrites index relation (earlier ++ first.flatMap (resolved index relation)) second := by
  induction first generalizing earlier with
  | nil => rw [List.nil_append, List.flatMap_nil, List.append_nil, allWrites, List.nil_append]
  | cons node rest ih =>
    rw [List.cons_append, allWrites, allWrites, ih, List.append_assoc, List.flatMap_cons,
      List.append_assoc]

/-! ### What all entries of a level have in common -/

theorem nodup_ofLevel (nodes : List Node) : (ofLevel index relation nodes).keys.Nodup := by
  rw [ofLevel_eq]
  exact nodup_merge nodup_empty _

/-- A property of the entries that nodes write: columns, leaves and failures have it, an embedded
row has it if its entries do, and an entry does not lose it when its value may be null. -/
structure Kept (index : Index) (E : Entry → Prop) : Prop where
  column : ∀ column, E (columnEntry index.schema column)
  leaf : ∀ relation field, E (leafEntry index.schema relation field)
  unresolved : ∀ relation field child failure,
    embed index relation field child = .error failure → E (.ofFailure failure)
  duplicateEmbedding : ∀ relation target, E (.ofFailure (.duplicateEmbedding relation target))
  illegalSpread : ∀ relation target, E (.ofFailure (.illegalSpread relation target))
  row : ∀ embedded : Embedded, embedded.child.keys.Nodup → All E embedded.child → E embedded.entry
  nullable : ∀ entry, E entry → E entry.nullable

variable {E : Entry → Prop} {field : Field} {children : List Node}

theorem all_ofLevel {nodes : List Node} (h : All E (allWrites index relation [] nodes)) :
    All E (ofLevel index relation nodes) := by
  rw [ofLevel_eq]
  exact all_merge (all_nil) h

/-- The rows of an embedding are a level of their own. -/
theorem child_of_embedding {embedded : Embedded}
    (h : embedding index relation field children = .ok embedded) :
    ∃ target, embedded.child = ofLevel index target children := by
  unfold embedding embed at h
  split at h
  · cases h
  · split at h
    · cases h
    · next target htarget =>
      obtain rfl := Except.ok.inj h
      exact ⟨target, rfl⟩

theorem all_child (hchildren : ∀ target, All E (allWrites index target [] children))
    {embedded : Embedded} (h : embedding index relation field children = .ok embedded) :
    embedded.child.keys.Nodup ∧ All E embedded.child := by
  obtain ⟨target, hchild⟩ := child_of_embedding h
  rw [hchild]
  exact ⟨nodup_ofLevel children, all_ofLevel (hchildren target)⟩

theorem Kept.embeddingWrites (h : Kept index E)
    (hchildren : ∀ target, All E (allWrites index target [] children)) (earlier : Resolved)
    (isEmpty : Bool) :
    All E (embeddingWrites relation earlier field isEmpty
      (embedding index relation field children)) := by
  cases hfound : embedding index relation field children with
  | error failure => exact all_singleton.mpr (h.unresolved _ _ _ _ hfound)
  | ok embedded =>
    obtain ⟨hnodup, hall⟩ := all_child hchildren hfound
    rw [Shape.embeddingWrites]
    split
    · exact all_singleton.mpr (h.duplicateEmbedding _ _)
    · split
      · exact all_nil
      · exact all_singleton.mpr (h.row embedded hnodup hall)

theorem Kept.spreadWrites (h : Kept index E)
    (hchildren : ∀ target, All E (allWrites index target [] children)) :
    All E (spreadWrites relation field (embedding index relation field children)) := by
  cases hfound : embedding index relation field children with
  | error failure => exact all_singleton.mpr (h.unresolved _ _ _ _ hfound)
  | ok embedded =>
    obtain ⟨-, hall⟩ := all_child hchildren hfound
    rw [Shape.spreadWrites]
    split
    · exact all_singleton.mpr (h.illegalSpread _ _)
    · unfold Embedded.columns
      split
      · exact all_nullable h.nullable hall
      · exact hall

mutual

theorem Kept.writes (h : Kept index E) (relation : Relation) (earlier : Resolved) :
    ∀ node : Node, All E (writes index relation earlier node)
  | .star => by
    rw [Shape.writes]
    intro write hwrite
    obtain ⟨column, -, rfl⟩ := List.mem_map.mp hwrite
    exact h.column column
  | .field field children => by
    rw [Shape.writes]
    split
    · exact h.embeddingWrites (fun target => h.allWrites target [] children) earlier
        children.isEmpty
    · exact all_singleton.mpr (h.leaf relation field)
  | .spread target children => by
    rw [Shape.writes]
    exact h.spreadWrites fun other => h.allWrites other [] children

theorem Kept.allWrites (h : Kept index E) (relation : Relation) (earlier : Resolved) :
    ∀ nodes : List Node, All E (allWrites index relation earlier nodes)
  | [] => all_nil
  | node :: rest => by
    rw [Shape.allWrites]
    exact all_append.mpr ⟨h.writes relation earlier node, h.allWrites relation _ rest⟩

end

/-- **What every node keeps, every entry of a shape has.** -/
theorem Kept.build (h : Kept index E) {root : String} {nodes : List Node} {shape : Shape}
    (hbuild : build index root nodes = .ok shape) : shape.keys.Nodup ∧ All E shape := by
  unfold Shape.build at hbuild
  split at hbuild
  · cases hbuild
  · next relation hroot =>
    obtain rfl := Except.ok.inj hbuild
    exact ⟨nodup_ofLevel nodes, all_ofLevel (h.allWrites relation [] nodes)⟩

end GatewayQuery.Shape
