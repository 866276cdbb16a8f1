/-
Which embeddings repeat another one.

A level remembers the embeddings that it has resolved, and refuses one without a hint if it
remembers the same key under the same name.  What is remembered is not what is shown: an embedding
without nodes leaves no key in the shape, one that was refused leaves a failure there, and columns
and spreads write over both.  The memory has to be exact all the same, or else an embedding is
refused that stands alone, or one is let through that does not.

So the list of a level is compared with the nodes that it came from.  It holds the embeddings among
them that resolve, each with its name and its key, and nothing else; a spread resolves a key as well
and is not in the list.  An embedding with nodes always writes under its name, and it is the last to
do so, so the entry there tells whether it was refused.
-/
import GatewayQuery.Proofs.Shape.Parallel
import GatewayQuery.Proofs.Shape.Visibility

namespace GatewayQuery

open Select (Field Node)

/-- Two embeddings travel the same key the same way. -/
structure Resolution.SameKey (a b : Resolution) : Prop where
  target : a.target = b.target
  direction : a.direction = b.direction
  name : a.key.name = b.key.name
  columns : a.key.columns = b.key.columns

theorem Resolution.sameAs_iff {a b : Resolution} : a.sameAs b = true ↔ a.SameKey b := by
  unfold sameAs
  rw [Bool.and_eq_true, Bool.and_eq_true, Bool.and_eq_true, beq_iff_eq, beq_iff_eq, beq_iff_eq,
    beq_iff_eq]
  constructor
  · intro h
    exact ⟨h.1.1.1, h.1.1.2, h.1.2, h.2⟩
  · intro h
    exact ⟨⟨⟨h.target, h.direction⟩, h.name⟩, h.columns⟩

namespace Shape

/-- The nodes of a level embed a key under a name. -/
def Embeds (schema : Schema) (relation : Relation) (nodes : List Node) (name : String)
    (found : Resolution) : Prop :=
  ∃ field children, .field field children ∈ nodes ∧ field.embedded = true ∧
    field.outputName = name ∧ resolve (.of schema) relation.name field = .ok found

/-- An embedding has no hint, and one of the nodes before it stands under its name and travels its
key. -/
def Repeats (schema : Schema) (relation : Relation) (before : List Node) (field : Field)
    (resolution : Resolution) : Prop :=
  field.hint = none ∧
    ∃ found, Embeds schema relation before field.outputName found ∧ found.SameKey resolution

variable {schema : Schema} {relation : Relation} {field : Field} {resolution : Resolution}
  {before nodes : List Node}

/-! ### What a level remembers -/

/-- A node is remembered exactly if it is an embedding that resolves. -/
theorem mem_resolved_iff {node : Node} {name : String} {found : Resolution} :
    (name, found) ∈ resolved (.of schema) relation node ↔
      ∃ field children, node = .field field children ∧ field.embedded = true ∧
        field.outputName = name ∧ resolve (.of schema) relation.name field = .ok found := by
  cases node with
  | star => simp [resolved]
  | spread target children => simp [resolved]
  | field field children =>
    rw [resolved]
    by_cases hembedded : field.embedded = true
    · rw [if_pos hembedded]
      cases hresolve : resolve (.of schema) relation.name field with
      | error failure =>
        rw [embedding_of_error hresolve, embeddingResolved]
        simp [hresolve]
      | ok resolution =>
        obtain ⟨target, hreaches⟩ := exists_reaches hresolve
        rw [embedding_of_reaches hreaches, embeddingResolved, List.mem_singleton, Prod.mk.injEq]
        constructor
        · intro h
          obtain ⟨rfl, rfl⟩ := h
          exact ⟨field, children, rfl, hembedded, rfl, hresolve⟩
        · intro h
          obtain ⟨other, below, hnode, -, hname, hfound⟩ := h
          obtain ⟨rfl, rfl⟩ := Node.field.inj hnode
          exact ⟨hname.symm, Except.ok.inj (hfound.symm.trans hresolve)⟩
    · rw [if_neg hembedded]
      simp [hembedded]

/-- **A level remembers the embeddings that resolved**, under their names and with their keys. -/
theorem mem_flatMap_resolved_iff {name : String} {found : Resolution} :
    (name, found) ∈ nodes.flatMap (resolved (.of schema) relation) ↔
      Embeds schema relation nodes name found := by
  rw [List.mem_flatMap]
  constructor
  · intro h
    obtain ⟨node, hmem, hnode⟩ := h
    obtain ⟨field, children, rfl, hfield⟩ := mem_resolved_iff.mp hnode
    exact ⟨field, children, hmem, hfield⟩
  · intro h
    obtain ⟨field, children, hmem, hfield⟩ := h
    exact ⟨.field field children, hmem, mem_resolved_iff.mpr ⟨field, children, rfl, hfield⟩⟩

theorem repeated_iff :
    repeated (before.flatMap (resolved (.of schema) relation)) field resolution = true ↔
      Repeats schema relation before field resolution := by
  unfold repeated Repeats
  rw [Bool.and_eq_true, Option.isNone_iff_eq_none, List.any_eq_true]
  refine and_congr_right fun _ => ?_
  constructor
  · intro h
    obtain ⟨⟨name, found⟩, hmem, hsame⟩ := h
    rw [Bool.and_eq_true, beq_iff_eq, Resolution.sameAs_iff] at hsame
    exact ⟨found, hsame.1 ▸ mem_flatMap_resolved_iff.mp hmem, hsame.2⟩
  · intro h
    obtain ⟨found, hembed, hsame⟩ := h
    refine ⟨(field.outputName, found), mem_flatMap_resolved_iff.mpr hembed, ?_⟩
    rw [Bool.and_eq_true, beq_iff_eq, Resolution.sameAs_iff]
    exact ⟨rfl, hsame⟩

instance : Decidable (Repeats schema relation before field resolution) :=
  decidable_of_iff _ repeated_iff

/-! ### The entry of the last node -/

/-- What the last node of a level writes is what is found under its keys. -/
theorem get?_ofLevel_concat {index : Schema.Index} (before : List Node) (node : Node)
    (key : String) :
    (ofLevel index relation (before ++ [node])).get? key =
      (lastAt key (writes index relation (before.flatMap (resolved index relation)) node)).or
        ((ofLevel index relation before).get? key) := by
  rw [ofLevel_eq, ofLevel_eq, allWrites_append, merge_append, get?_merge, allWrites, allWrites,
    List.append_nil, List.nil_append]

/-- An embedding with nodes writes its row, or its refusal, under its name. -/
theorem get?_embedding {children : List Node} {embedded : Embedded}
    (hembedded : field.embedded = true) (hchildren : children ≠ [])
    (hfound : embedding (.of schema) relation field children = .ok embedded) (before : List Node) :
    (ofLevel (.of schema) relation (before ++ [.field field children])).get? field.outputName =
      some (if Repeats schema relation before field embedded.resolution then
          .ofFailure (.duplicateEmbedding relation.name embedded.resolution.target)
        else embedded.entry) := by
  have hnodes : children.isEmpty = false := by simpa using hchildren
  rw [get?_ofLevel_concat, writes, if_pos hembedded, hfound, embeddingWrites]
  simp only [repeated_iff, hnodes]
  by_cases hrepeats : Repeats schema relation before field embedded.resolution
  · rw [if_pos hrepeats, if_pos hrepeats, lastAt_cons, if_pos rfl]
    rfl
  · rw [if_neg hrepeats, if_neg hrepeats, if_neg Bool.false_ne_true, lastAt_cons, if_pos rfl]
    rfl

theorem entry_not_failed (embedded : Embedded) : embedded.entry.isFailed = false := by
  unfold Embedded.entry
  cases embedded.cardinality with
  | one => rfl
  | many => rfl

/-- **An embedding is refused exactly if it repeats one before it.**  At any position of a level
where an embedding with nodes resolves, the shape of the nodes up to there has an entry under its
name.  The entry says that it is there a second time exactly if the embedding has no hint and an
earlier one, whatever its hint and its nodes, stands under the same name and travels the same key;
and it says nothing else that would be a failure. -/
theorem duplicate_iff_repeats {position : Nat} {children : List Node}
    (hnode : nodes[position]? = some (.field field children)) (hembedded : field.embedded = true)
    (hchildren : children ≠ [])
    (hresolves : resolve (.of schema) relation.name field = .ok resolution) :
    ∃ entry,
      (ofLevel (.of schema) relation (nodes.take (position + 1))).get? field.outputName =
          some entry ∧
        ((∃ diagnosis, entry = .failed diagnosis ∧ diagnosis.kind = .duplicateEmbedding) ↔
          Repeats schema relation (nodes.take position) field resolution) ∧
        (entry.isFailed = true →
          entry = .ofFailure (.duplicateEmbedding relation.name resolution.target)) := by
  obtain ⟨target, hreaches⟩ := exists_reaches hresolves
  obtain ⟨embedded, hfound, rfl⟩ : ∃ embedded,
      embedding (.of schema) relation field children = .ok embedded ∧
        embedded.resolution = resolution :=
    ⟨_, embedding_of_reaches hreaches children, rfl⟩
  have hentry := get?_embedding hembedded hchildren hfound (nodes.take position)
  rw [List.take_add_one, hnode]
  refine ⟨_, hentry, ?_⟩
  by_cases hrepeats : Repeats schema relation (nodes.take position) field embedded.resolution
  · rw [if_pos hrepeats]
    exact ⟨iff_of_true ⟨_, rfl, rfl⟩ hrepeats, fun _ => rfl⟩
  · rw [if_neg hrepeats]
    have hrow := entry_not_failed embedded
    refine ⟨iff_of_false ?_ hrepeats, ?_⟩
    · intro h
      obtain ⟨diagnosis, hdiagnosis, -⟩ := h
      rw [hdiagnosis] at hrow
      cases hrow
    · intro hfailed
      rw [hrow] at hfailed
      cases hfailed

/-- The sender of a message by its key but without a column, every column, and then the sender again
by name. -/
def senderTwice : List Node := [
  .field (.embedding "sender" none (some "messages_sender_fkey") false) [],
  .star,
  .spread (.embedding "sender" none none false) [.field (.column "name") []],
  .field (.embedding "sender" none none true) [.star]]

/-- The sender that is embedded again is refused, although the first one left nothing in the shape,
and a column of that name and a spread of the same row stand between the two. -/
theorem sender_refused_twice :
    senderTwice[3]? = some (.field (.embedding "sender" none none true) [.star]) ∧
      (ofLevel (.of ⟨[people, messages], []⟩) messages senderTwice).get? "sender" =
        some (.ofFailure (.duplicateEmbedding "messages" "people")) := by
  have hnode : senderTwice[3]? = some (.field (.embedding "sender" none none true) [.star]) := rfl
  have hresolves : resolve (.of ⟨[people, messages], []⟩) messages.name
      (.embedding "sender" none none true) =
        .ok ⟨⟨"messages_sender_fkey", ["sender"], "people", ["id"], false⟩, .forward, "messages",
          "people", .byName⟩ := rfl
  have hearlier : resolve (.of ⟨[people, messages], []⟩) "messages"
      (.embedding "sender" none (some "messages_sender_fkey") false) =
        .ok ⟨⟨"messages_sender_fkey", ["sender"], "people", ["id"], false⟩, .forward, "messages",
          "people", .byHint⟩ := rfl
  obtain ⟨entry, hentry, hduplicate, hfailure⟩ :=
    duplicate_iff_repeats hnode rfl (List.cons_ne_nil _ _) hresolves
  refine ⟨hnode, ?_⟩
  obtain ⟨diagnosis, hfailed, -⟩ := hduplicate.mpr
    ⟨rfl, _, ⟨_, [], List.mem_cons_self, rfl, rfl, hearlier⟩, rfl, rfl, rfl, rfl⟩
  rw [hfailure (by rw [hfailed]; rfl)] at hentry
  exact hentry

end Shape

end GatewayQuery
