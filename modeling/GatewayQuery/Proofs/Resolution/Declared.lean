/-
What a name means, told by the declarations.

The tables over a schema list keys under their ends, and a choice by name looks into three of these
lists.  Where relations have different names each list is a part of what one relation declares, in
the order in which it declares it: the keys of the target towards the current relation, those of the
current relation towards the target, and those of the current relation that are called like the
field.  So the answer needs no tables.  The first of the three that has any keys gives it: its only
key, travelled as that place says, or all its keys to choose from.

The target need not be a relation.  Then the first two places are empty, even if keys point at that
name.
-/
import GatewayQuery.Proofs.Resolution.Suggestions

namespace GatewayQuery

open Schema (Index Edge)
open Select (Field)

namespace Relation

/-- The keys that a relation declares towards another one. -/
def keysTo (relation : Relation) (other : String) : List ForeignKey :=
  relation.keys.filter (·.referenced == other)

/-- The keys of a relation whose only column or whose name is the given one. -/
def keysCalled (relation : Relation) (name : String) : List ForeignKey :=
  relation.keys.filter fun key => key.isColumn name || key.name == name

end Relation

/-! ### The keys of one relation -/

namespace Schema

variable {schema : Schema} {relation : Relation}

theorem filter_owner_eq_nil {relations : List Relation} {name : String}
    (h : ∀ relation ∈ relations, relation.name ≠ name) :
    (edgesOf relations).filter (·.owner == name) = [] := by
  refine List.filter_eq_nil_iff.mpr fun edge hedge => ?_
  obtain ⟨relation, hmem, hdeclared⟩ := List.mem_flatMap.mp hedge
  obtain ⟨key, -, rfl⟩ := List.mem_map.mp hdeclared
  simpa using h relation hmem

theorem filter_owner_keys (relation : Relation) :
    (relation.keys.map (Edge.mk relation.name)).filter (·.owner == relation.name) =
      relation.keys.map (Edge.mk relation.name) := by
  refine List.filter_eq_self.mpr fun edge hedge => ?_
  obtain ⟨key, -, rfl⟩ := List.mem_map.mp hedge
  exact beq_self_eq_true relation.name

/-- Where names are apart, all keys under the name of a relation are its own. -/
theorem filter_owner_edges (hdistinct : (schema.relations.map (·.name)).Nodup)
    (hmem : relation ∈ schema.relations) :
    schema.edges.filter (·.owner == relation.name) =
      relation.keys.map (Edge.mk relation.name) := by
  unfold edges
  generalize schema.relations = relations at hdistinct hmem
  induction relations with
  | nil => cases hmem
  | cons first rest ih =>
    obtain ⟨hfirst, hrest⟩ := List.nodup_cons.mp hdistinct
    have hsplit : edgesOf (first :: rest) =
        first.keys.map (Edge.mk first.name) ++ edgesOf rest := rfl
    rw [hsplit, List.filter_append]
    rcases List.mem_cons.mp hmem with rfl | hlater
    · have hnone : (edgesOf rest).filter (·.owner == relation.name) = [] := by
        refine filter_owner_eq_nil fun other hother hname => hfirst ?_
        exact List.mem_map.mpr ⟨other, hother, hname⟩
      rw [hnone, filter_owner_keys, List.append_nil]
    · have hname : first.name ≠ relation.name := by
        intro hsame
        exact hfirst (List.mem_map.mpr ⟨relation, hlater, hsame.symm⟩)
      have hnone : (edgesOf [first]).filter (·.owner == relation.name) = [] :=
        filter_owner_eq_nil fun other hother => by rwa [List.mem_singleton.mp hother]
      rw [edgesOf, List.flatMap_singleton] at hnone
      rw [hnone, List.nil_append]
      exact ih hrest hlater

end Schema

namespace Resolution

variable {schema : Schema} {source : Relation} {current target : String}

/-! ### The three places -/

/-- A place where a name is looked up: keys that one relation declares, and how the only one of them
would be travelled. -/
structure Place where
  owner : String
  keys : List ForeignKey
  travel : ForeignKey → Option Resolution

namespace Place

/-- The keys that the target declares towards the current relation. -/
def incoming (schema : Schema) (source : Relation) (target : String) : Place where
  owner := target
  keys := ((schema.relation? target).map (·.keysTo source.name)).getD []
  travel key := some ⟨key, .reverse, source.name, target, .byName⟩

/-- The keys that the current relation declares towards the target, if that is a relation. -/
def outgoing (schema : Schema) (source : Relation) (target : String) : Place where
  owner := source.name
  keys := if schema.Has target then source.keysTo target else []
  travel key := some ⟨key, .forward, source.name, target, .byName⟩

/-- The keys of the current relation that are called like the target, each leading to the relation
that it points at. -/
def called (schema : Schema) (source : Relation) (target : String) : Place where
  owner := source.name
  keys := source.keysCalled target
  travel key :=
    if schema.Has key.referenced then
      some ⟨key, if key.referenced = source.name then .reverse else .forward, source.name,
        key.referenced, .byName⟩
    else none

/-- What a place answers: its only key if it can be travelled, and several to choose from. -/
def answer (place : Place) (current target : String) : Except Failure Resolution :=
  match place.keys with
  | [] => .error (.relationshipNotFound current target)
  | [key] =>
    match place.travel key with
    | none => .error (.relationshipNotFound current target)
    | some resolution => .ok resolution
  | keys => .error (.ambiguous current target (keys.map fun key => candidate ⟨place.owner, key⟩))

/-- Whether a place has any keys. -/
def occupied (place : Place) : Bool := !place.keys.isEmpty

/-- The keys of a place with their owner. -/
def edges (place : Place) : List Edge := place.keys.map (Edge.mk place.owner)

theorem edges_eq_nil_iff {place : Place} : place.edges = [] ↔ place.keys = [] := List.map_eq_nil_iff

theorem occupied_of_edges {place : Place} (h : place.edges ≠ []) : place.occupied = true := by
  simpa [occupied, edges_eq_nil_iff] using h

theorem not_occupied {place : Place} (h : place.keys = []) : ¬place.occupied = true := by
  simp [occupied, h]

/-- Nothing is declared by or towards a name that is no relation. -/
theorem keys_of_unknown (h : ¬schema.Has target) :
    (incoming schema source target).keys = [] ∧ (outgoing schema source target).keys = [] := by
  refine ⟨?_, if_neg h⟩
  show ((schema.relation? target).map (·.keysTo source.name)).getD [] = []
  rw [Schema.relation?_eq_none_iff.mpr h]
  rfl

end Place

/-- The three places, in the order in which they are asked. -/
def places (schema : Schema) (source : Relation) (target : String) : List Place :=
  [.incoming schema source target, .outgoing schema source target, .called schema source target]

theorem towards_eq (hdistinct : (schema.relations.map (·.name)).Nodup) (source : Relation)
    (target : String) :
    towards (.of schema) source.name target = (Place.incoming schema source target).edges := by
  rw [towards, Index.incoming_of, List.filter_comm, Place.edges, Place.incoming]
  cases htarget : schema.relation? target with
  | none =>
    have hnot := Schema.relation?_eq_none_iff.mp htarget
    have hnone : schema.edges.filter (·.owner == target) = [] :=
      Schema.filter_owner_eq_nil fun relation hmem hname => hnot ⟨relation, hmem, hname⟩
    rw [hnone]
    rfl
  | some relation =>
    obtain rfl := Schema.name_of_relation? htarget
    rw [Schema.filter_owner_edges hdistinct (List.mem_of_find?_eq_some htarget), List.filter_map]
    rfl

theorem awayFrom_eq (hdistinct : (schema.relations.map (·.name)).Nodup)
    (hsource : source ∈ schema.relations) (hknown : schema.Has target) :
    awayFrom (.of schema) source.name target = (Place.outgoing schema source target).edges := by
  rw [awayFrom, Index.outgoing_of, Schema.filter_owner_edges hdistinct hsource, List.filter_map,
    Place.edges, Place.outgoing, if_pos hknown]
  rfl

theorem named_eq (hdistinct : (schema.relations.map (·.name)).Nodup)
    (hsource : source ∈ schema.relations) (target : String) :
    named (.of schema) source.name target = (Place.called schema source target).edges := by
  rw [named, Index.outgoing_of, Schema.filter_owner_edges hdistinct hsource, List.filter_map]
  rfl

/-- A key that bears the name leads to the relation it points at, if there is one. -/
theorem onward_eq (key : ForeignKey) (owner target : String) :
    onward schema source.name ⟨owner, key⟩ = (Place.called schema source target).travel key := by
  simp only [onward, Place.called]
  by_cases hhas : schema.Has key.referenced
  · obtain ⟨other, hother, hname⟩ := Schema.relation?_of_has hhas
    rw [if_pos hhas, hother, Option.map_some, hname]
  · rw [if_neg hhas, Schema.relation?_eq_none_iff.mpr hhas, Option.map_none]

/-! ### The place that decides -/

/-- The outcome of a look-up, in which to find nothing is a failure. -/
def settle (current target : String) :
    Except Failure (Option Resolution) → Except Failure Resolution
  | .error failure => .error failure
  | .ok none => .error (.relationshipNotFound current target)
  | .ok (some resolution) => .ok resolution

theorem settle_single (place : Place) {travel : Edge → Option Resolution}
    (htravel : ∀ key, travel ⟨place.owner, key⟩ = place.travel key) (current target : String) :
    settle current target ((single current target place.edges).map (·.bind travel)) =
      place.answer current target := by
  unfold Place.edges Place.answer
  match place.keys with
  | [] => rfl
  | [key] =>
    show settle current target (.ok (travel ⟨place.owner, key⟩)) = _
    rw [htravel]
    dsimp only
    cases place.travel key <;> rfl
  | first :: second :: rest =>
    show Except.error (Failure.ambiguous current target
      (((first :: second :: rest).map (Edge.mk place.owner)).map candidate)) = _
    rw [List.map_map]
    rfl

/-- The place that is searched last decides also without any keys, and finds nothing then. -/
theorem Decides.answers {edges : List Edge} {travel : Edge → Option Resolution}
    (h : Decides schema source.name target edges travel)
    (hdistinct : (schema.relations.map (·.name)).Nodup) (hsource : source ∈ schema.relations) :
    settle source.name target ((single source.name target edges).map (·.bind travel)) =
      match (places schema source target).find? Place.occupied with
      | none => .error (.relationshipNotFound source.name target)
      | some place => place.answer source.name target := by
  cases h with
  | towards known found =>
    rw [towards_eq hdistinct] at found ⊢
    rw [places, List.find?_cons_of_pos (Place.occupied_of_edges found)]
    exact settle_single _ (fun _ => rfl) source.name target
  | awayFrom known before found =>
    rw [towards_eq hdistinct, Place.edges_eq_nil_iff] at before
    rw [awayFrom_eq hdistinct hsource known] at found ⊢
    rw [places, List.find?_cons_of_neg (Place.not_occupied before),
      List.find?_cons_of_pos (Place.occupied_of_edges found)]
    exact settle_single _ (fun _ => rfl) source.name target
  | named before =>
    have hempty : (Place.incoming schema source target).keys = [] ∧
        (Place.outgoing schema source target).keys = [] := by
      by_cases hknown : schema.Has target
      · obtain ⟨hin, hout⟩ := before hknown
        rw [towards_eq hdistinct, Place.edges_eq_nil_iff] at hin
        rw [awayFrom_eq hdistinct hsource hknown, Place.edges_eq_nil_iff] at hout
        exact ⟨hin, hout⟩
      · exact Place.keys_of_unknown hknown
    rw [named_eq hdistinct hsource,
      settle_single _ (fun key => onward_eq key source.name target) source.name target,
      places, List.find?_cons_of_neg (Place.not_occupied hempty.1),
      List.find?_cons_of_neg (Place.not_occupied hempty.2)]
    by_cases hcalled : (Place.called schema source target).keys = []
    · rw [List.find?_cons_of_neg (Place.not_occupied hcalled), Place.answer, hcalled]
      rfl
    · rw [List.find?_cons_of_pos
        (Place.occupied_of_edges (mt Place.edges_eq_nil_iff.mp hcalled))]

end Resolution

theorem resolve_unhinted {index : Index} {current : String} {field : Field}
    (hhint : field.hint = none) :
    resolve index current field =
      Resolution.settle current field.name (Resolution.byName index current field.name) := by
  unfold resolve
  rw [hhint]
  cases Resolution.byName index current field.name with
  | error failure => rfl
  | ok found => cases found <;> rfl

/-- **Without a hint the declared keys alone decide.**  Of the three places the first that has keys
answers: with its only key, travelled as the place says, unless that leads nowhere; or with a
failure that offers exactly its keys, in the order of their declaration.  If there are no keys in
any of them, nothing is found. -/
theorem resolve_declared {schema : Schema} {source : Relation} {field : Field}
    (hdistinct : (schema.relations.map (·.name)).Nodup) (hsource : source ∈ schema.relations)
    (hhint : field.hint = none) :
    resolve (.of schema) source.name field =
      match (Resolution.places schema source field.name).find? Resolution.Place.occupied with
      | none => .error (.relationshipNotFound source.name field.name)
      | some place => place.answer source.name field.name := by
  have hcurrent : schema.Has source.name := ⟨source, hsource, rfl⟩
  obtain ⟨edges, travel, hdecides, hbyName⟩ := Resolution.byName_decided hcurrent field.name
  rw [resolve_unhinted hhint, hbyName]
  exact hdecides.answers hdistinct hsource

/-- Posts declare one key towards people, and two whose only column is the author. -/
theorem resolve_declared_posts :
    (Schema.press.relations.map (·.name)).Nodup ∧
      resolve (.of .press) "posts" (.embedding "people" none none false) =
        .ok ⟨⟨"posts_people_fkey", ["author"], "people", ["id"], false⟩, .forward, "posts",
          "people", .byName⟩ ∧
      resolve (.of .press) "posts" (.embedding "author" none none false) =
        .error (.ambiguous "posts" "author"
          [⟨"posts_people_fkey", "posts", ["author"], "people"⟩,
            ⟨"posts_staff_fkey", "posts", ["author"], "staff"⟩]) := by
  have hdistinct : (Schema.press.relations.map (·.name)).Nodup := by decide
  have hposts : Schema.press.relations[3] ∈ Schema.press.relations := List.getElem_mem _
  have hpeople : (Field.embedding "people" none none false).hint = none := rfl
  have hauthor : (Field.embedding "author" none none false).hint = none := rfl
  exact ⟨hdistinct, resolve_declared hdistinct hposts hpeople,
    resolve_declared hdistinct hposts hauthor⟩

end GatewayQuery
