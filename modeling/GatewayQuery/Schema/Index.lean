/-
Look-up tables over a schema: relations by name, and foreign keys by either end.  The tables are
filled in one pass; what they answer is what a scan of the schema would find, which is how the
rest of the library reasons about them.
-/
import GatewayQuery.Schema.Basic

namespace GatewayQuery.Schema

/-- A foreign key together with the relation that declares it. -/
structure Edge where
  owner : String
  key : ForeignKey
  deriving DecidableEq, Repr, Inhabited

/-- Values filed under names, in the order in which they came. -/
structure Groups (α : Type) where
  groups : List (String × List α)

namespace Groups

variable {α : Type}

def empty : Groups α := ⟨[]⟩

/-- Files a value: at the end of its group, or as the first of a new one. -/
def addTo (name : String) (value : α) : List (String × List α) → List (String × List α)
  | [] => [(name, [value])]
  | (other, values) :: rest =>
    if other = name then (other, values ++ [value]) :: rest
    else (other, values) :: addTo name value rest

def add (groups : Groups α) (name : String) (value : α) : Groups α :=
  ⟨addTo name value groups.groups⟩

/-- The values filed under a name. -/
def get (groups : Groups α) (name : String) : List α := (groups.groups.lookup name).getD []

@[simp] theorem get_empty (name : String) : (empty : Groups α).get name = [] := rfl

theorem lookup_addTo (name other : String) (value : α) (groups : List (String × List α)) :
    ((addTo name value groups).lookup other).getD [] =
      (groups.lookup other).getD [] ++ if name = other then [value] else [] := by
  induction groups with
  | nil =>
    by_cases same : name = other
    · subst same
      simp [addTo]
    · have : ¬other = name := fun h => same h.symm
      simp [addTo, List.lookup_cons, same, beq_false_of_ne this]
  | cons group rest ih =>
    obtain ⟨held, values⟩ := group
    by_cases same : held = name
    · by_cases asked : other = held
      · simp_all [addTo]
      · have : ¬name = other := fun h => asked (by rw [same, h])
        simp_all [addTo, List.lookup_cons, beq_false_of_ne]
    · by_cases asked : other = held
      · have : ¬name = other := fun h => same (by rw [h, asked])
        simp_all [addTo]
      · simp_all [addTo, List.lookup_cons, beq_false_of_ne]

/-- Filing a value appends it to its group and leaves the other groups alone. -/
@[simp] theorem get_add (groups : Groups α) (name other : String) (value : α) :
    (groups.add name value).get other =
      groups.get other ++ if name = other then [value] else [] :=
  lookup_addTo name other value groups.groups

end Groups

/-- All keys of some relations with their owners, in the order of declaration. -/
def edgesOf (relations : List Relation) : List Edge :=
  relations.flatMap fun relation => relation.keys.map (Edge.mk relation.name)

/-- All keys of the schema with their owners, in the order of declaration. -/
def edges (schema : Schema) : List Edge := edgesOf schema.relations

/-- The tables over a schema. -/
structure Index where
  schema : Schema
  relations : List (String × Relation)
  outgoingKeys : Groups Edge
  incomingKeys : Groups Edge

namespace Index

/-- Adds a key to both tables. -/
def addEdge (index : Index) (edge : Edge) : Index :=
  { index with
    outgoingKeys := index.outgoingKeys.add edge.owner edge
    incomingKeys := index.incomingKeys.add edge.key.referenced edge }

/-- Adds a relation, unless the name is taken, and all its keys. -/
def addRelation (index : Index) (relation : Relation) : Index :=
  let named :=
    if (index.relations.lookup relation.name).isSome then index
    else { index with relations := index.relations ++ [(relation.name, relation)] }
  relation.keys.foldl (fun index key => index.addEdge ⟨relation.name, key⟩) named

/-- The tables over a schema. -/
def of (schema : Schema) : Index :=
  schema.relations.foldl addRelation ⟨schema, [], .empty, .empty⟩

/-- The relation with the name. -/
def relation? (index : Index) (name : String) : Option Relation := index.relations.lookup name

/-- The keys that a relation declares. -/
def outgoing (index : Index) (relation : String) : List Edge := index.outgoingKeys.get relation

/-- The keys that point at a relation. -/
def incoming (index : Index) (relation : String) : List Edge := index.incomingKeys.get relation

/-! ### What the tables answer -/

/-- Adding the keys of one relation extends each look-up by the keys it asks for. -/
theorem outgoing_addKeys (owner name : String) (keys : List ForeignKey) (index : Index) :
    (keys.foldl (fun index key => index.addEdge ⟨owner, key⟩) index).outgoing name =
      index.outgoing name ++ (keys.map (Edge.mk owner)).filter (·.owner == name) := by
  induction keys generalizing index with
  | nil => simp
  | cons key rest ih =>
    rw [List.foldl_cons, ih]
    by_cases h : owner = name <;> simp [addEdge, outgoing, h]

theorem incoming_addKeys (owner name : String) (keys : List ForeignKey) (index : Index) :
    (keys.foldl (fun index key => index.addEdge ⟨owner, key⟩) index).incoming name =
      index.incoming name ++ (keys.map (Edge.mk owner)).filter (·.key.referenced == name) := by
  induction keys generalizing index with
  | nil => simp
  | cons key rest ih =>
    rw [List.foldl_cons, ih]
    by_cases h : key.referenced = name <;> simp [addEdge, incoming, h]

theorem relations_addKeys (owner : String) (keys : List ForeignKey) (index : Index) :
    (keys.foldl (fun index key => index.addEdge ⟨owner, key⟩) index).relations =
      index.relations := by
  induction keys generalizing index with
  | nil => rfl
  | cons key rest ih => rw [List.foldl_cons, ih]; rfl

theorem schema_addKeys (owner : String) (keys : List ForeignKey) (index : Index) :
    (keys.foldl (fun index key => index.addEdge ⟨owner, key⟩) index).schema = index.schema := by
  induction keys generalizing index with
  | nil => rfl
  | cons key rest ih => rw [List.foldl_cons, ih]; rfl

theorem outgoing_addRelation (index : Index) (relation : Relation) (name : String) :
    (index.addRelation relation).outgoing name =
      index.outgoing name ++ (edgesOf [relation]).filter (·.owner == name) := by
  unfold addRelation
  rw [outgoing_addKeys]
  split <;> simp [outgoing, edgesOf]

theorem incoming_addRelation (index : Index) (relation : Relation) (name : String) :
    (index.addRelation relation).incoming name =
      index.incoming name ++ (edgesOf [relation]).filter (·.key.referenced == name) := by
  unfold addRelation
  rw [incoming_addKeys]
  split <;> simp [incoming, edgesOf]

/-- The first relation of a name stays the one that is found. -/
theorem relation?_addRelation (index : Index) (relation : Relation) (name : String) :
    (index.addRelation relation).relation? name =
      (index.relation? name).or (if relation.name = name then some relation else none) := by
  unfold addRelation relation?
  rw [relations_addKeys]
  by_cases taken : (index.relations.lookup relation.name).isSome
  · rw [if_pos taken]
    by_cases same : relation.name = name
    · subst same
      cases h : index.relations.lookup relation.name <;> simp_all
    · simp [same]
  · rw [if_neg taken]
    by_cases same : relation.name = name
    · subst same
      simp_all [List.lookup_append]
    · have : (name == relation.name) = false := beq_false_of_ne fun h => same h.symm
      simp [List.lookup_append, List.lookup_cons, same, this]

@[simp] theorem outgoing_of (schema : Schema) (name : String) :
    (of schema).outgoing name = schema.edges.filter (·.owner == name) := by
  suffices ∀ (relations : List Relation) (index : Index),
      (relations.foldl addRelation index).outgoing name =
      index.outgoing name ++ (edgesOf relations).filter (·.owner == name) by
    simpa [of, edges, outgoing] using this schema.relations ⟨schema, [], .empty, .empty⟩
  intro relations
  induction relations with
  | nil => intro index; simp [edgesOf]
  | cons relation rest ih =>
    intro index
    rw [List.foldl_cons, ih, outgoing_addRelation]
    simp [edgesOf]

@[simp] theorem incoming_of (schema : Schema) (name : String) :
    (of schema).incoming name = schema.edges.filter (·.key.referenced == name) := by
  suffices ∀ (relations : List Relation) (index : Index),
      (relations.foldl addRelation index).incoming name =
      index.incoming name ++ (edgesOf relations).filter (·.key.referenced == name) by
    simpa [of, edges, incoming] using this schema.relations ⟨schema, [], .empty, .empty⟩
  intro relations
  induction relations with
  | nil => intro index; simp [edgesOf]
  | cons relation rest ih =>
    intro index
    rw [List.foldl_cons, ih, incoming_addRelation]
    simp [edgesOf]

@[simp] theorem relation?_of (schema : Schema) (name : String) :
    (of schema).relation? name = schema.relation? name := by
  suffices ∀ (relations : List Relation) (index : Index),
      (relations.foldl addRelation index).relation? name =
      (index.relation? name).or (relations.find? (·.name == name)) by
    simpa [of, relation?, Schema.relation?] using
      this schema.relations ⟨schema, [], .empty, .empty⟩
  intro relations
  induction relations with
  | nil => intro index; simp
  | cons relation rest ih =>
    intro index
    rw [List.foldl_cons, ih, relation?_addRelation]
    by_cases same : relation.name = name <;> cases index.relation? name <;> simp [same]

@[simp] theorem schema_of (schema : Schema) : (of schema).schema = schema := by
  suffices ∀ (relations : List Relation) (index : Index),
      (relations.foldl addRelation index).schema = index.schema from
    this schema.relations ⟨schema, [], .empty, .empty⟩
  intro relations
  induction relations with
  | nil => intro index; rfl
  | cons relation rest ih =>
    intro index
    rw [List.foldl_cons, ih]
    unfold addRelation
    rw [schema_addKeys]
    split <;> rfl

end Index

end GatewayQuery.Schema
