/-
Which keys a level has.

The keys of a shape come out of many writes: a key that is there keeps its place, a spread brings
the keys of a whole level along, and some embeddings write nothing.  What is left of all this is one
list.  Each node asks for some keys, and the keys of the level are those asked for, node by node,
each where it came first.

What a node asks for is said without shapes.  It depends on the columns of the relation, on how a
field resolves, and for an embedding without nodes on those before it; a spread of one row asks for
the keys of the level below it, so the list is defined by recursion on the nodes as shapes are, and
the two recursions are compared step by step.  Repetitions may be left out below a spread or not:
the level above leaves them out anyway.
-/
import GatewayQuery.Proofs.Shape.Frame
import GatewayQuery.Proofs.Shape.History
import GatewayQuery.Proofs.Shape.Repetition

namespace GatewayQuery.Shape

open Select (Field Node)

/-- The relation whose columns a spread splices in, if it resolves and has one row at most. -/
def spliced (schema : Schema) (relation : Relation) (target : Field) : Option Relation :=
  match resolve (.of schema) relation.name target with
  | .error _ => none
  | .ok resolution =>
    match (resolution.cardinality (.of schema) target.innerJoin).1 with
    | .many => none
    | .one => schema.relation? resolution.target

/-- An embedding resolves and repeats none before it. -/
def Accepted (schema : Schema) (relation : Relation) (before : List Node) (field : Field) : Prop :=
  ∃ resolution, resolve (.of schema) relation.name field = .ok resolution ∧
    ¬Repeats schema relation before field resolution

variable {schema : Schema} {relation : Relation} {field : Field} {before : List Node}

theorem accepted_iff {resolution : Resolution}
    (h : resolve (.of schema) relation.name field = .ok resolution) :
    Accepted schema relation before field ↔ ¬Repeats schema relation before field resolution := by
  constructor
  · intro haccepted
    obtain ⟨found, hfound, hnot⟩ := haccepted
    obtain rfl := Except.ok.inj (h.symm.trans hfound)
    exact hnot
  · intro hnot
    exact ⟨resolution, h, hnot⟩

theorem not_accepted {failure : Failure}
    (h : resolve (.of schema) relation.name field = .error failure) :
    ¬Accepted schema relation before field := by
  intro haccepted
  obtain ⟨resolution, hfound, -⟩ := haccepted
  rw [h] at hfound
  cases hfound

instance : Decidable (Accepted schema relation before field) :=
  match hresolve : resolve (.of schema) relation.name field with
  | .error _ => isFalse (not_accepted hresolve)
  | .ok _ => decidable_of_iff _ (accepted_iff hresolve).symm

mutual

/-- The keys that a node asks for, behind the nodes before it. -/
def asked (schema : Schema) (relation : Relation) (before : List Node) : Node → List String
  | .star => relation.columns.map (·.name)
  | .field field children =>
    if field.embedded ∧ children.isEmpty ∧ Accepted schema relation before field then []
    else [field.outputName]
  | .spread target children =>
    match spliced schema relation target with
    | none => [target.outputName]
    | some other => (allAsked schema other [] children).eraseDups

/-- The keys that some nodes ask for, one after the other. -/
def allAsked (schema : Schema) (relation : Relation) (before : List Node) :
    List Node → List String
  | [] => []
  | node :: rest =>
    asked schema relation before node ++ allAsked schema relation (before ++ [node]) rest

end

/-! ### Single nodes -/

theorem spliced_of_error {failure : Failure}
    (h : resolve (.of schema) relation.name field = .error failure) :
    spliced schema relation field = none := by
  unfold spliced
  rw [h]

theorem spliced_of_reaches {resolution : Resolution} {other : Relation}
    (h : Reaches (.of schema) relation field resolution other) :
    spliced schema relation field =
      match (resolution.cardinality (.of schema) field.innerJoin).1 with
      | .many => none
      | .one => some other := by
  have hother : schema.relation? resolution.target = some other :=
    (Schema.Index.relation?_of schema _).symm.trans h.2
  unfold spliced
  rw [h.1]
  simp only [hother]

/-- An embedding writes its name, unless it is accepted and has no nodes. -/
theorem keys_embedding (before : List Node) (children : List Node) :
    Shape.keys (embeddingWrites relation (before.flatMap (resolved (.of schema) relation)) field
        children.isEmpty (embedding (.of schema) relation field children)) =
      if children.isEmpty ∧ Accepted schema relation before field then []
      else [field.outputName] := by
  cases hresolve : resolve (.of schema) relation.name field with
  | error failure =>
    rw [embedding_of_error hresolve, if_neg fun h => not_accepted hresolve h.2]
    rfl
  | ok resolution =>
    obtain ⟨target, hreaches⟩ := exists_reaches hresolve
    rw [embedding_of_reaches hreaches, embeddingWrites]
    simp only [repeated_iff, accepted_iff hresolve]
    by_cases hrepeats : Repeats schema relation before field resolution
    · rw [if_pos hrepeats, if_neg fun h => h.2 hrepeats]
      rfl
    · rw [if_neg hrepeats]
      by_cases hempty : children.isEmpty = true
      · rw [if_pos hempty, if_pos ⟨hempty, hrepeats⟩]
        rfl
      · rw [if_neg hempty, if_neg fun h => hempty h.1]
        rfl

/-- A spread writes its name, unless it splices in the keys of the level below it. -/
theorem keys_spread (children : List Node) :
    Shape.keys (spreadWrites relation field (embedding (.of schema) relation field children)) =
      match spliced schema relation field with
      | none => [field.outputName]
      | some other => (ofLevel (.of schema) other children).keys := by
  rw [keys_spreadWrites]
  cases hresolve : resolve (.of schema) relation.name field with
  | error failure =>
    rw [embedding_of_error hresolve, spliced_of_error hresolve]
    rfl
  | ok resolution =>
    obtain ⟨other, hreaches⟩ := exists_reaches hresolve
    rw [embedding_of_reaches hreaches, spliced_of_reaches hreaches, spreadFootprint]
    cases (resolution.cardinality (.of schema) field.innerJoin).1 with
    | one => rfl
    | many => rfl

/-! ### Levels

The two recursions go on together: a node writes the keys that it asks for, given that the levels
below it have the keys that are asked for there.
-/

/-- The keys of a level are those that its nodes write, each where it came first. -/
theorem keys_ofLevel_writes {index : Schema.Index} (nodes : List Node) :
    (ofLevel index relation nodes).keys =
      (allWrites index relation [] nodes).keys.eraseDups := by
  rw [ofLevel_eq]
  exact (follows_empty.writes _).keys

mutual

theorem keys_writes (relation : Relation) (before : List Node) : ∀ node : Node,
    (writes (.of schema) relation (before.flatMap (resolved (.of schema) relation)) node).keys =
      asked schema relation before node
  | .star => by
    rw [writes, asked, Shape.keys, Keyed.keys, List.map_map]
    rfl
  | .field field children => by
    rw [writes, asked]
    by_cases hembedded : field.embedded = true
    · rw [if_pos hembedded, keys_embedding]
      simp only [hembedded, true_and]
    · rw [if_neg hembedded, if_neg fun h => hembedded h.1]
      rfl
  | .spread target children => by
    rw [writes, asked, keys_spread]
    cases spliced schema relation target with
    | none => rfl
    | some other => exact keys_level other children

theorem keys_allWrites (relation : Relation) (before : List Node) : ∀ nodes : List Node,
    (allWrites (.of schema) relation (before.flatMap (resolved (.of schema) relation))
        nodes).keys =
      allAsked schema relation before nodes
  | [] => by
    rw [allWrites, allAsked]
    rfl
  | node :: rest => by
    have hrest := keys_allWrites relation (before ++ [node]) rest
    rw [List.flatMap_append, List.flatMap_singleton] at hrest
    rw [allWrites, allAsked, keys_append, keys_writes relation before node, hrest]

theorem keys_level (relation : Relation) (nodes : List Node) :
    (ofLevel (.of schema) relation nodes).keys =
      (allAsked schema relation [] nodes).eraseDups := by
  rw [keys_ofLevel_writes]
  exact congrArg List.eraseDups (keys_allWrites relation [] nodes)

end

theorem mem_allAsked_iff {key : String} {nodes : List Node} :
    key ∈ allAsked schema relation before nodes ↔
      ∃ front node back, nodes = front ++ node :: back ∧
        key ∈ asked schema relation (before ++ front) node := by
  induction nodes generalizing before with
  | nil =>
    rw [allAsked]
    refine iff_of_false List.not_mem_nil ?_
    intro h
    obtain ⟨front, node, back, hnodes, -⟩ := h
    exact absurd hnodes.symm (List.append_ne_nil_of_right_ne_nil front (List.cons_ne_nil node back))
  | cons first rest ih =>
    rw [allAsked, List.mem_append, ih]
    constructor
    · intro h
      rcases h with hfirst | ⟨front, node, back, rfl, hkey⟩
      · exact ⟨[], first, rest, rfl, by rwa [List.append_nil]⟩
      · exact ⟨first :: front, node, back, rfl, by rwa [List.append_cons]⟩
    · intro h
      obtain ⟨front, node, back, hnodes, hkey⟩ := h
      cases front with
      | nil =>
        obtain ⟨rfl, rfl⟩ := List.cons.inj hnodes
        exact .inl (by rwa [List.append_nil] at hkey)
      | cons head front =>
        obtain ⟨rfl, rfl⟩ := List.cons.inj hnodes
        exact .inr ⟨front, node, back, rfl, by rwa [List.append_cons] at hkey⟩

/-- **The keys of a level are those that its nodes ask for.**  They stand in the order of the nodes,
each where it came first; a spread that splices a row in asks for the keys of the level below it;
and a key is there exactly if one of the nodes asks for it, given the nodes before that one. -/
theorem keys_eq_asked (schema : Schema) (relation : Relation) (nodes : List Node) :
    (ofLevel (.of schema) relation nodes).keys =
        (allAsked schema relation [] nodes).eraseDups ∧
      (∀ before target children,
        asked schema relation before (.spread target children) =
          match spliced schema relation target with
          | none => [target.outputName]
          | some other => (ofLevel (.of schema) other children).keys) ∧
      ∀ key, key ∈ (ofLevel (.of schema) relation nodes).keys ↔
        ∃ front node back, nodes = front ++ node :: back ∧
          key ∈ asked schema relation front node := by
  refine ⟨keys_level relation nodes, ?_, ?_⟩
  · intro before target children
    rw [asked]
    cases spliced schema relation target with
    | none => rfl
    | some other => exact (keys_level other children).symm
  · intro key
    rw [keys_level, List.mem_eraseDups, mem_allAsked_iff]
    rfl

-- the embedding has no nodes and asks for nothing, the column of its name asks for its key
example : (allAsked ⟨[people, messages], []⟩ messages []
    [.field (.embedding "sender" none none false) [],
      .spread (.embedding "reader" none none false) [.field (.column "name") []],
      .star]).eraseDups = ["name", "id", "sender", "reader"] := rfl

end GatewayQuery.Shape
