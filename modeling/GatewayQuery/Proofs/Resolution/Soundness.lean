/-
What a resolved embedding can be relied on for.

Every level below an embedding is matched with the relation that the embedding leads to, so
a wrong end or a wrong direction would spoil all of them.  However a key was chosen, it is
declared, it joins the two relations the way it is said to, and both of them exist.
-/
import GatewayQuery.Proofs.Resolution.Choice

namespace GatewayQuery

namespace Resolution

open Schema (Index Edge)
open Select (Field)

variable {schema : Schema} {current target : String}

/-- What is promised of the resolution of a field under a relation. -/
structure Sound (schema : Schema) (current : String) (field : Field) (resolution : Resolution) :
    Prop where
  declared : ∃ relation ∈ schema.relations, resolution.key ∈ relation.keys
  source : resolution.source = current
  sourceKnown : schema.Has resolution.source
  targetKnown : schema.Has resolution.target
  forward : resolution.direction = .forward →
    schema.Declares current resolution.key ∧ resolution.key.referenced = resolution.target
  reverse : resolution.direction = .reverse →
    schema.Declares resolution.target resolution.key ∧ resolution.key.referenced = current
  toItself : resolution.source = resolution.target → resolution.direction = .reverse
  hinted : field.hint.isSome = true → schema.Has field.name → resolution.target = field.name

/-- A key declared by the target, travelled backward. -/
theorem Sound.ofReverse {field : Field} {edge : Edge} {matchedBy : MatchKind}
    (hedge : edge ∈ schema.edges) (hcurrent : schema.Has current)
    (hreferenced : edge.key.referenced = current)
    (hhinted : field.hint.isSome = true → schema.Has field.name → edge.owner = field.name) :
    Sound schema current field ⟨edge.key, .reverse, current, edge.owner, matchedBy⟩ := by
  have hdeclares := Schema.mem_edges_iff.mp hedge
  obtain ⟨relation, hmem, hname, hkey⟩ := hdeclares
  exact {
    declared := ⟨relation, hmem, hkey⟩
    source := rfl
    sourceKnown := hcurrent
    targetKnown := ⟨relation, hmem, hname⟩
    forward := fun h => by cases h
    reverse := fun _ => ⟨⟨relation, hmem, hname, hkey⟩, hreferenced⟩
    toItself := fun _ => rfl
    hinted := hhinted }

/-- A key declared by the current relation towards another one, travelled forward. -/
theorem Sound.ofForward {field : Field} {edge : Edge} {matchedBy : MatchKind}
    (hedge : edge ∈ schema.edges) (howner : edge.owner = current)
    (htarget : schema.Has edge.key.referenced) (hother : current ≠ edge.key.referenced)
    (hhinted : field.hint.isSome = true → schema.Has field.name →
      edge.key.referenced = field.name) :
    Sound schema current field
      ⟨edge.key, .forward, current, edge.key.referenced, matchedBy⟩ := by
  subst howner
  have hdeclares := Schema.mem_edges_iff.mp hedge
  obtain ⟨relation, hmem, hname, hkey⟩ := hdeclares
  exact {
    declared := ⟨relation, hmem, hkey⟩
    source := rfl
    sourceKnown := ⟨relation, hmem, hname⟩
    targetKnown := htarget
    forward := fun _ => ⟨⟨relation, hmem, hname, hkey⟩, rfl⟩
    reverse := fun h => by cases h
    toItself := fun h => absurd h hother
    hinted := hhinted }

/-- The only key of the place that decides. -/
theorem Sound.ofDecides {field : Field} {edge : Edge} {travel : Edge → Option Resolution}
    {resolution : Resolution} (hhint : field.hint = none) (hcurrent : schema.Has current)
    (hdecides : Decides schema current target [edge] travel)
    (htravel : travel edge = some resolution) : Sound schema current field resolution := by
  have hunhinted : ¬field.hint.isSome = true := by simp [hhint]
  generalize hedges : [edge] = edges at hdecides
  cases hdecides with
  | towards known found =>
    obtain ⟨hedge, rfl, hreferenced⟩ := mem_towards_iff.mp (hedges ▸ List.mem_singleton_self edge)
    cases htravel
    exact .ofReverse hedge hcurrent hreferenced fun h => absurd h hunhinted
  | awayFrom known before found =>
    obtain ⟨hedge, rfl, howner⟩ := mem_awayFrom_iff.mp (hedges ▸ List.mem_singleton_self edge)
    cases htravel
    refine .ofForward hedge howner known ?_ fun h => absurd h hunhinted
    -- a key from the relation to itself would have stood in the first place
    intro hself
    have hmem := mem_towards_iff.mpr ⟨hedge, howner.trans hself, hself.symm⟩
    rw [before] at hmem
    cases hmem
  | named before =>
    obtain ⟨hedge, -, howner⟩ := mem_named_iff.mp (hedges ▸ List.mem_singleton_self edge)
    obtain ⟨other, hother, hsame⟩ := Option.map_eq_some_iff.mp htravel
    have hname := Schema.name_of_relation? hother
    subst hsame
    rw [hname]
    by_cases hself : edge.key.referenced = current
    · rw [if_pos hself, hself, ← howner]
      exact .ofReverse hedge (howner ▸ hcurrent) (hself.trans howner.symm)
        fun h => absurd h hunhinted
    · rw [if_neg hself]
      exact .ofForward hedge howner (Schema.has_of_relation? hother) (Ne.symm hself)
        fun h => absurd h hunhinted

/-- A key that connects the two relations, followed. -/
theorem Sound.ofFollow {field : Field} {edge : Edge} {direction : Direction}
    {resolution : Resolution}
    (hmem : (edge, direction) ∈ connecting (.of schema) current field.name)
    (hfollow : follow (.of schema) current edge direction = some resolution) :
    Sound schema current field resolution := by
  obtain ⟨hedge, hends⟩ := mem_connecting_iff.mp hmem
  by_cases hself : edge.owner = edge.key.referenced
  · rw [follow_self hself] at hfollow
    obtain ⟨hcurrent, -, rfl⟩ := follow_reverse.mp hfollow
    rcases hends with ⟨-, htarget, hreferenced⟩ | ⟨-, htarget, howner⟩
    · exact .ofReverse hedge hcurrent hreferenced fun _ => htarget
    · exact .ofReverse hedge hcurrent (hself ▸ howner) fun _ h => hself.trans (htarget h)
  · rcases hends with ⟨rfl, htarget, hreferenced⟩ | ⟨rfl, htarget, howner⟩
    · obtain ⟨hcurrent, -, rfl⟩ := follow_reverse.mp hfollow
      exact .ofReverse hedge hcurrent hreferenced fun _ => htarget
    · obtain ⟨-, hother, rfl⟩ := (follow_forward hself).mp hfollow
      exact .ofForward hedge howner hother (howner ▸ hself) fun _ => htarget

end Resolution

/-- **Whatever a field resolves to, by name or by hint, is declared and leads where it says.** -/
theorem resolution_sound {schema : Schema} {current : String} {field : Select.Field}
    {resolution : Resolution} (h : resolve (.of schema) current field = .ok resolution) :
    resolution.Sound schema current field := by
  rcases resolve_eq_ok_iff.mp h with ⟨hhint, hname⟩ | ⟨hint, -, hfound⟩
  · obtain ⟨hcurrent, edge, travel, hdecides, htravel⟩ := Resolution.byName_eq_some hname
    exact .ofDecides hhint hcurrent hdecides htravel
  · obtain ⟨edge, direction, hmem, -, hfollow⟩ := Resolution.byHint_eq_some hfound
    exact .ofFollow hmem hfollow

end GatewayQuery
