/-
Whether an ambiguous embedding can be mended as its failure suggests.

A failure that names several keys suggests to hint one of them.  The hinted search does not
look where the unhinted one looked: it takes the keys between the current relation and the
target, or all keys of the current relation if the target is no relation.  A key that was
found through its column or its own name is therefore missed by it when a relation happens
to bear the same name as the field, and a key whose other end is not in the schema cannot be
followed at all.  Apart from these two cases the suggestion leads to the key it names.
-/
import GatewayQuery.Schema.Consistency
import GatewayQuery.Proofs.Resolution.Soundness

namespace GatewayQuery

namespace Resolution

open Schema (Index Edge)
open Select (Field)

variable {schema : Schema} {current target : String}

/-- A hint that names the candidate leads to it: the relation it points at is there, and if the
target is a relation the candidate lies between the two. -/
structure Followable (schema : Schema) (current target : String) (candidate : Candidate) :
    Prop where
  known : schema.Has candidate.referenced
  between : schema.Has target →
    (candidate.owner = target ∧ candidate.referenced = current) ∨
      (candidate.owner = current ∧ candidate.referenced = target)

/-! ### Hinting the name of a key -/

theorem key_of_follow {edge : Edge} {direction : Direction} {resolution : Resolution}
    (h : follow (.of schema) current edge direction = some resolution) :
    resolution.key = edge.key := by
  obtain ⟨-, -, rfl⟩ := follow_eq_some_iff.mp h
  rfl

/-- A connecting key can be followed if it points at a relation. -/
theorem exists_follow_iff {edge : Edge} {direction : Direction} (hcurrent : schema.Has current)
    (h : (edge, direction) ∈ connecting (.of schema) current target) :
    (∃ resolution, follow (.of schema) current edge direction = some resolution) ↔
      schema.Has edge.key.referenced := by
  obtain ⟨hedge, hends⟩ := mem_connecting_iff.mp h
  have hfar : schema.Has (farEnd edge direction) ↔ schema.Has edge.key.referenced := by
    rcases hends with ⟨rfl, -, hreferenced⟩ | ⟨rfl, -, -⟩
    · exact iff_of_true (Schema.mem_edges_iff.mp hedge).has (hreferenced ▸ hcurrent)
    · exact Iff.rfl
  rw [← hfar]
  constructor
  · rintro ⟨resolution, hfollow⟩
    exact (follow_eq_some_iff.mp hfollow).2.1
  · intro hknown
    exact ⟨_, follow_eq_some_iff.mpr ⟨hcurrent, hknown, rfl⟩⟩

/-- A key of the current relation connects it with the target if it lies between them, or if the
target is no relation. -/
theorem exists_connecting_iff {edge : Edge} (hedge : edge ∈ schema.edges)
    (hend : edge.owner = current ∨ edge.key.referenced = current) :
    (∃ direction, (edge, direction) ∈ connecting (.of schema) current target) ↔
      (schema.Has target →
        (edge.owner = target ∧ edge.key.referenced = current) ∨
          (edge.owner = current ∧ edge.key.referenced = target)) := by
  constructor
  · rintro ⟨direction, hmem⟩ hknown
    obtain ⟨-, ⟨-, howner, hreferenced⟩ | ⟨-, hreferenced, howner⟩⟩ := mem_connecting_iff.mp hmem
    · exact .inl ⟨howner hknown, hreferenced⟩
    · exact .inr ⟨howner, hreferenced hknown⟩
  · intro hbetween
    by_cases hknown : schema.Has target
    · rcases hbetween hknown with ⟨howner, hreferenced⟩ | ⟨howner, hreferenced⟩
      · exact ⟨.reverse, mem_connecting_iff.mpr ⟨hedge, .inl ⟨rfl, fun _ => howner, hreferenced⟩⟩⟩
      · exact ⟨.forward, mem_connecting_iff.mpr ⟨hedge, .inr ⟨rfl, fun _ => hreferenced, howner⟩⟩⟩
    · rcases hend with howner | hreferenced
      · exact ⟨.forward, mem_connecting_iff.mpr
          ⟨hedge, .inr ⟨rfl, fun h => absurd h hknown, howner⟩⟩⟩
      · exact ⟨.reverse, mem_connecting_iff.mpr
          ⟨hedge, .inl ⟨rfl, fun h => absurd h hknown, hreferenced⟩⟩⟩

/-- Both ends of a key that connects twice are the current relation, so it does not matter which
of the two is found. -/
theorem follow_eq_of_connecting {edge : Edge} {direction other : Direction}
    (h : (edge, direction) ∈ connecting (.of schema) current target)
    (hother : (edge, other) ∈ connecting (.of schema) current target) :
    follow (.of schema) current edge direction = follow (.of schema) current edge other := by
  by_cases hsame : direction = other
  · rw [hsame]
  · have hself : edge.owner = edge.key.referenced := by
      obtain ⟨-, ⟨hd, -, hend⟩ | ⟨hd, -, hend⟩⟩ := mem_connecting_iff.mp h <;>
        obtain ⟨-, ⟨ho, -, hotherEnd⟩ | ⟨ho, -, hotherEnd⟩⟩ := mem_connecting_iff.mp hother
      · exact absurd (hd.trans ho.symm) hsame
      · rw [hend, hotherEnd]
      · rw [hend, hotherEnd]
      · exact absurd (hd.trans ho.symm) hsame
    rw [follow_self hself direction, follow_self hself other]

/-- The name of a constraint is the strongest hint: it finds its key before any other rule is
tried. -/
theorem byHint_name {edge : Edge} {direction : Direction} {resolution : Resolution}
    (hapart : schema.NamesKeysApart)
    (h : (edge, direction) ∈ connecting (.of schema) current target)
    (hfollow : follow (.of schema) current edge direction = some resolution) :
    byHint (.of schema) current target edge.key.name = some resolution := by
  obtain ⟨⟨found, foundDirection⟩, hfind⟩ : ∃ found,
      (connecting (.of schema) current target).find?
        (fun pair => pair.1.key.name == edge.key.name) = some found := by
    rw [← Option.isSome_iff_exists, List.find?_isSome]
    exact ⟨(edge, direction), h, by simp⟩
  have hmem := List.mem_of_find?_eq_some hfind
  have hname : found.key.name = edge.key.name := by simpa using List.find?_some hfind
  obtain rfl : found = edge :=
    hapart.edge_eq (mem_connecting_iff.mp hmem).1 (mem_connecting_iff.mp h).1 hname
  have hfirst : follow (.of schema) current found foundDirection = some resolution := by
    rw [follow_eq_of_connecting hmem h, hfollow]
  unfold byHint hintRules
  rw [List.findSome?_cons]
  simp only [hfind, Option.bind_some, hfirst]

/-- A hint by name leads to its key exactly if that key is followable. -/
theorem byHint_name_iff {edge : Edge} (hapart : schema.NamesKeysApart)
    (hcurrent : schema.Has current) (hedge : edge ∈ schema.edges)
    (hend : edge.owner = current ∨ edge.key.referenced = current) :
    (∃ resolution, byHint (.of schema) current target edge.key.name = some resolution ∧
        resolution.key = edge.key) ↔
      Followable schema current target (candidate edge) := by
  constructor
  · rintro ⟨resolution, hfound, hkey⟩
    obtain ⟨found, direction, hmem, -, hfollow⟩ := byHint_eq_some hfound
    obtain rfl : found = edge := by
      refine hapart.edge_eq (mem_connecting_iff.mp hmem).1 hedge ?_
      rw [← hkey, key_of_follow hfollow]
    exact {
      known := (exists_follow_iff hcurrent hmem).mp ⟨resolution, hfollow⟩
      between := (exists_connecting_iff hedge hend).mp ⟨direction, hmem⟩ }
  · intro hfollowable
    obtain ⟨direction, hmem⟩ := (exists_connecting_iff hedge hend).mpr hfollowable.between
    obtain ⟨resolution, hfollow⟩ := (exists_follow_iff hcurrent hmem).mpr hfollowable.known
    exact ⟨resolution, byHint_name hapart hmem hfollow, key_of_follow hfollow⟩

/-! ### The candidates of a failure -/

/-- The place that decides holds keys of the current relation. -/
theorem Decides.ends {edges : List Edge} {travel : Edge → Option Resolution}
    (h : Decides schema current target edges travel) {edge : Edge} (hmem : edge ∈ edges) :
    edge ∈ schema.edges ∧ (edge.owner = current ∨ edge.key.referenced = current) := by
  cases h with
  | towards known found =>
    obtain ⟨hedge, -, hreferenced⟩ := mem_towards_iff.mp hmem
    exact ⟨hedge, .inr hreferenced⟩
  | awayFrom known before found =>
    obtain ⟨hedge, -, howner⟩ := mem_awayFrom_iff.mp hmem
    exact ⟨hedge, .inl howner⟩
  | named before =>
    obtain ⟨hedge, -, howner⟩ := mem_named_iff.mp hmem
    exact ⟨hedge, .inl howner⟩

/-- Each candidate of an ambiguity is a key of the current relation. -/
theorem edge_of_candidate {field : Field} {failure : Failure} {offered : Candidate}
    (h : resolve (.of schema) current field = .error failure)
    (hkind : failure.kind = .ambiguousRelationship)
    (hoffered : offered ∈ failure.context.candidates) :
    schema.Has current ∧ ∃ edge ∈ schema.edges, offered = candidate edge ∧
      (edge.owner = current ∨ edge.key.referenced = current) := by
  rcases resolve_eq_error h with rfl | hname
  · cases hkind
  · obtain ⟨hcurrent, edges, travel, hdecides, rfl⟩ := byName_eq_error hname
    obtain ⟨edge, hmem, rfl⟩ := List.mem_map.mp hoffered
    obtain ⟨hedge, hend⟩ := hdecides.ends hmem
    exact ⟨hcurrent, edge, hedge, rfl, hend⟩

end Resolution

/-- **When a suggestion works.**  Hinting a candidate of an ambiguity by its name leads to exactly
that key if the relation it points at is in the schema and, where the field bears the name of a
relation, the candidate lies between that relation and the current one; else it does not. -/
theorem suggestion_resolves_iff {schema : Schema} {current : String} {field : Select.Field}
    {failure : Failure} {offered : Candidate} (hapart : schema.NamesKeysApart)
    (h : resolve (.of schema) current field = .error failure)
    (hkind : failure.kind = .ambiguousRelationship)
    (hoffered : offered ∈ failure.context.candidates) :
    (∃ resolution,
        resolve (.of schema) current { field with hint := some offered.foreignKey } =
          .ok resolution ∧
        resolution.key.name = offered.foreignKey ∧
        schema.Declares offered.owner resolution.key) ↔
      Resolution.Followable schema current field.name offered := by
  obtain ⟨hcurrent, edge, hedge, rfl, hend⟩ := Resolution.edge_of_candidate h hkind hoffered
  rw [← Resolution.byHint_name_iff hapart hcurrent hedge hend]
  constructor
  · rintro ⟨resolution, hok, hname, hdeclares⟩
    rcases resolve_eq_ok_iff.mp hok with ⟨hnone, -⟩ | ⟨hint, hhint, hfound⟩
    · cases hnone
    · obtain rfl := Option.some.inj hhint
      have hmem : ⟨edge.owner, resolution.key⟩ ∈ schema.edges := Schema.mem_edges_iff.mpr hdeclares
      exact ⟨resolution, hfound, congrArg Schema.Edge.key (hapart.edge_eq hmem hedge hname)⟩
  · rintro ⟨resolution, hfound, hkey⟩
    refine ⟨resolution, resolve_eq_ok_iff.mpr (.inr ⟨_, rfl, hfound⟩), by rw [hkey]; rfl, ?_⟩
    rw [hkey]
    exact Schema.mem_edges_iff.mp hedge

/-- Posts whose author is one of the people and one of the staff, and a relation that is called
like the column. -/
def Schema.press : Schema where
  relations := [
    ⟨"people", .table, [⟨"id", "int8", false⟩], []⟩,
    ⟨"staff", .table, [⟨"id", "int8", false⟩], []⟩,
    ⟨"author", .table, [⟨"id", "int8", false⟩], []⟩,
    ⟨"posts", .table, [⟨"id", "int8", false⟩, ⟨"author", "int8", false⟩],
      [⟨"posts_people_fkey", ["author"], "people", ["id"], false⟩,
        ⟨"posts_staff_fkey", ["author"], "staff", ["id"], false⟩]⟩]
  enums := []

/-- The author of a post is ambiguous, and neither key is found when it is hinted: the search is
for keys towards the relation that is called like the column. -/
theorem suggestion_lost_to_relation :
    Schema.press.check = .ok () ∧
      ∃ failure offered,
        resolve (.of .press) "posts" (.embedding "author" none none false) = .error failure ∧
        failure.kind = .ambiguousRelationship ∧ offered ∈ failure.context.candidates ∧
        ¬∃ resolution,
          resolve (.of .press) "posts" (.embedding "author" none (some offered.foreignKey) false) =
            .ok resolution ∧
          resolution.key.name = offered.foreignKey ∧
          Schema.press.Declares offered.owner resolution.key := by
  have hambiguous : resolve (.of .press) "posts" (.embedding "author" none none false) =
      .error (.ambiguous "posts" "author"
        [⟨"posts_people_fkey", "posts", ["author"], "people"⟩,
          ⟨"posts_staff_fkey", "posts", ["author"], "staff"⟩]) := rfl
  refine ⟨rfl, _, ⟨"posts_people_fkey", "posts", ["author"], "people"⟩, hambiguous, rfl,
    List.mem_cons_self, ?_⟩
  intro hresolves
  have hfollowable :=
    (suggestion_resolves_iff (by decide) hambiguous rfl List.mem_cons_self).mp hresolves
  rcases hfollowable.between (by decide) with ⟨howner, -⟩ | ⟨-, hreferenced⟩
  · exact absurd howner (by decide)
  · exact absurd hreferenced (by decide)

end GatewayQuery
