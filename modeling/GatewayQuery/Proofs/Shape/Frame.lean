/-
What a node can change in its level.

Two ways lead from a node to its siblings: it may write over their entries, and it may make
a later embedding a repetition of itself.  Both need the same key.  So outside of the keys
that a node may write, its level looks the same with it and without it: the same keys in the
same order, each with the same entry, whether the node succeeds or fails.
-/
import GatewayQuery.Proofs.Schema.ValueType
import GatewayQuery.Proofs.Shape.Writes

namespace GatewayQuery.Shape

open Schema (Index)
open Select (Field Node)

variable {index : Index} {relation : Relation}

/-- The keys that a spread may write: those of its row if there is one at most, else its own. -/
def spreadFootprint (target : Field) : Except Failure Embedded → List String
  | .error _ => [target.outputName]
  | .ok embedded =>
    match embedded.cardinality with
    | .many => [target.outputName]
    | .one => embedded.child.keys

/-- The keys that a node may write. -/
def footprint (index : Index) (relation : Relation) : Node → List String
  | .star => relation.columns.map (·.name)
  | .field field _ => [field.outputName]
  | .spread target children => spreadFootprint target (embedding index relation target children)

theorem Embedded.keys_columns (embedded : Embedded) :
    embedded.columns.keys = embedded.child.keys := by
  unfold Embedded.columns
  split
  · exact keys_nullable embedded.child
  · rfl

/-! ### Nothing is written outside of it -/

theorem keys_embeddingWrites {earlier : Resolved} {field : Field} {isEmpty : Bool}
    {found : Except Failure Embedded} {key : String}
    (h : key ∈ (embeddingWrites relation earlier field isEmpty found).keys) :
    key = field.outputName := by
  cases found with
  | error failure => exact List.mem_singleton.mp h
  | ok embedded =>
    rw [embeddingWrites] at h
    by_cases hrepeated : repeated earlier field embedded.resolution = true
    · rw [if_pos hrepeated] at h
      exact List.mem_singleton.mp h
    · rw [if_neg hrepeated] at h
      cases isEmpty with
      | true => cases h
      | false => exact List.mem_singleton.mp h

theorem keys_spreadWrites (target : Field) (found : Except Failure Embedded) :
    (spreadWrites relation target found).keys = spreadFootprint target found := by
  cases found with
  | error failure => rfl
  | ok embedded =>
    obtain ⟨resolution, cardinality, nullable, child⟩ := embedded
    cases cardinality with
    | many => rfl
    | one => exact Embedded.keys_columns _

theorem mem_footprint_of_writes {earlier : Resolved} {node : Node} {key : String}
    (h : key ∈ (writes index relation earlier node).keys) :
    key ∈ footprint index relation node := by
  cases node with
  | star =>
    show key ∈ relation.columns.map (·.name)
    unfold writes Shape.keys Keyed.keys at h
    rw [List.map_map] at h
    exact h
  | field field children =>
    refine List.mem_singleton.mpr ?_
    rw [writes] at h
    by_cases hembedded : field.embedded = true
    · rw [if_pos hembedded] at h
      exact keys_embeddingWrites h
    · rw [if_neg hembedded] at h
      exact List.mem_singleton.mp h
  | spread target children =>
    rw [writes, keys_spreadWrites] at h
    exact h

theorem mem_footprint_of_resolved {node : Node} {key : String}
    (h : key ∈ Keyed.keys (resolved index relation node)) :
    key ∈ footprint index relation node := by
  cases node with
  | star => cases h
  | spread target children => cases h
  | field field children =>
    refine List.mem_singleton.mpr ?_
    rw [resolved] at h
    by_cases hembedded : field.embedded = true
    · rw [if_pos hembedded] at h
      cases hfound : embedding index relation field children with
      | error failure =>
        rw [hfound] at h
        cases h
      | ok embedded =>
        rw [hfound] at h
        exact List.mem_singleton.mp h
    · rw [if_neg hembedded] at h
      cases h

/-! ### Embeddings under other keys do not count -/

/-- Embeddings that are the same outside of some keys. -/
def AgreeOutside (keys : List String) (earlier other : Resolved) : Prop :=
  ∀ key, key ∉ keys → Keyed.named key earlier = Keyed.named key other

theorem repeated_eq (earlier : Resolved) (field : Field) (resolution : Resolution) :
    repeated earlier field resolution =
      (field.hint.isNone &&
        (Keyed.named field.outputName earlier).any (·.sameAs resolution)) := by
  unfold repeated
  congr 1
  induction earlier with
  | nil => rfl
  | cons entry rest ih =>
    obtain ⟨key, other⟩ := entry
    rw [List.any_cons, ih, Keyed.named_cons]
    by_cases h : key = field.outputName <;> simp [h]

/-- What a node writes outside of some keys depends on the embeddings outside of them. -/
theorem without_writes {keys : List String} {earlier other : Resolved}
    (h : AgreeOutside keys earlier other) (node : Node) :
    without keys (writes index relation earlier node) =
      without keys (writes index relation other node) := by
  cases node with
  | star => rfl
  | spread target children => rfl
  | field field children =>
    by_cases hinside : field.outputName ∈ keys
    · -- all that the field writes is left out
      have hnone : ∀ embedded : Resolved,
          without keys (writes index relation embedded (.field field children)) = [] := by
        intro embedded
        refine without_eq_nil fun key hkey => ?_
        have hown := mem_footprint_of_writes hkey
        rw [List.mem_singleton.mp hown]
        exact hinside
      rw [hnone earlier, hnone other]
    · have hsame : repeated earlier field = repeated other field := by
        funext resolution
        rw [repeated_eq, repeated_eq, h field.outputName hinside]
      have hwrites : embeddingWrites relation earlier field children.isEmpty =
          embeddingWrites relation other field children.isEmpty := by
        funext found
        unfold embeddingWrites
        rw [hsame]
      rw [writes, writes, hwrites]

theorem AgreeOutside.append {keys : List String} {earlier other : Resolved}
    (h : AgreeOutside keys earlier other) (more : Resolved) :
    AgreeOutside keys (earlier ++ more) (other ++ more) := by
  intro key hkey
  rw [Keyed.named_append, Keyed.named_append, h key hkey]

theorem without_allWrites {keys : List String} {earlier other : Resolved}
    (h : AgreeOutside keys earlier other) (nodes : List Node) :
    without keys (allWrites index relation earlier nodes) =
      without keys (allWrites index relation other nodes) := by
  induction nodes generalizing earlier other with
  | nil => rfl
  | cons node rest ih =>
    rw [allWrites, allWrites, without_append, without_append, without_writes h node,
      ih (h.append (resolved index relation node))]

/-- What a node adds to the embeddings stays within its keys. -/
theorem agreeOutside_resolved (earlier : Resolved) (node : Node) :
    AgreeOutside (footprint index relation node) (earlier ++ resolved index relation node)
      earlier := by
  intro key hkey
  have hnone : Keyed.named key (resolved index relation node) = [] := by
    rw [Keyed.named_eq_nil_iff]
    exact fun hmem => hkey (mem_footprint_of_resolved hmem)
  rw [Keyed.named_append, hnone, List.append_nil]

/-! ### A level with a node and without it -/

theorem without_ofLevel (index : Index) (relation : Relation) (before after : List Node)
    (node : Node) :
    without (footprint index relation node) (ofLevel index relation (before ++ node :: after)) =
      without (footprint index relation node) (ofLevel index relation (before ++ after)) := by
  have hnode : without (footprint index relation node)
      (writes index relation (before.flatMap (resolved index relation)) node) = [] :=
    without_eq_nil fun _ hkey => mem_footprint_of_writes hkey
  have hagree : AgreeOutside (footprint index relation node)
      (before.flatMap (resolved index relation) ++ resolved index relation node)
      (before.flatMap (resolved index relation)) :=
    agreeOutside_resolved _ node
  have hafter := @without_allWrites index relation _ _ _ hagree after
  rw [ofLevel_eq, ofLevel_eq, without_merge, without_merge, allWrites_append, allWrites_append,
    allWrites, List.nil_append]
  rw [without_append, without_append, without_append, hnode, List.nil_append, hafter]

/-- **A node changes nothing but its own keys.**  With it and without it the level has the same
entry under every other key, and these keys stand in the same order. -/
theorem ofLevel_outside_footprint (schema : Schema) (relation : Relation)
    (before after : List Node) (node : Node) :
    (∀ key, key ∉ footprint (.of schema) relation node →
        (ofLevel (.of schema) relation (before ++ node :: after)).get? key =
          (ofLevel (.of schema) relation (before ++ after)).get? key) ∧
      (ofLevel (.of schema) relation (before ++ node :: after)).keys.filter
          (· ∉ footprint (.of schema) relation node) =
        (ofLevel (.of schema) relation (before ++ after)).keys.filter
          (· ∉ footprint (.of schema) relation node) := by
  have hwithout := without_ofLevel (.of schema) relation before after node
  constructor
  · intro key hkey
    rw [← get?_without hkey, hwithout, get?_without hkey]
  · rw [← keys_without, ← keys_without, hwithout]

/-- Users with a number and a name. -/
def namedUsers : Relation :=
  ⟨"users", .table, [⟨"id", "int8", false⟩, ⟨"name", "text", true⟩], []⟩

/-- An embedding of a relation that is not there fails between two columns.  The first of them has
the type that it has without the embedding, and the second still stands behind it. -/
theorem id_beside_failing_embedding :
    "id" ∉ footprint (.of ⟨[namedUsers], []⟩) namedUsers
        (.field (.embedding "ghosts" none none false) [.star]) ∧
      (ofLevel (.of ⟨[namedUsers], []⟩) namedUsers
          [.field (.column "id") [], .field (.embedding "ghosts" none none false) [.star],
            .field (.column "name") []]).get? "id" = some (.typed .number false) ∧
      (ofLevel (.of ⟨[namedUsers], []⟩) namedUsers
          [.field (.column "id") [], .field (.embedding "ghosts" none none false) [.star],
            .field (.column "name") []]).keys.filter (· ∉ ["ghosts"]) = ["id", "name"] := by
  have hkey : "id" ∉ footprint (.of ⟨[namedUsers], []⟩) namedUsers
      (.field (.embedding "ghosts" none none false) [.star]) := by
    show "id" ∉ ["ghosts"]
    decide
  have hnumber : Schema.valueType ⟨[namedUsers], []⟩ "int8" = .number :=
    Schema.valueTypeOf_scalar rfl rfl
  have hwithout : ofLevel (.of ⟨[namedUsers], []⟩) namedUsers
      ([.field (.column "id") []] ++ [.field (.column "name") []]) =
        [("id", .typed .number false),
          ("name", .typed (Schema.valueType ⟨[namedUsers], []⟩ "text") true)] := by
    rw [← hnumber]
    rfl
  obtain ⟨hentry, hkeys⟩ := ofLevel_outside_footprint ⟨[namedUsers], []⟩ namedUsers
    [.field (.column "id") []] [.field (.column "name") []]
    (.field (.embedding "ghosts" none none false) [.star])
  have hid := hentry "id" hkey
  rw [hwithout] at hid hkeys
  exact ⟨hkey, hid, hkeys⟩

end GatewayQuery.Shape
