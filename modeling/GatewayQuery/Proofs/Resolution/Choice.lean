/-
How a key comes to be chosen.

By name, one of three places decides, and it decides alone: its only key is travelled as
that place says, and several keys are a failure.  By hint, a key is chosen among those that
connect the two relations.  Each step is taken apart here once, so that what is proved of a
choice speaks of declared keys and not of tables.
-/
import GatewayQuery.Resolution
import GatewayQuery.Proofs.Schema.Keys

namespace GatewayQuery.Resolution

open Schema (Index Edge)
open Select (Field)

variable {schema : Schema} {current target : String}

/-! ### What stands in each place -/

theorem mem_towards_iff {edge : Edge} :
    edge ∈ towards (.of schema) current target ↔
      edge ∈ schema.edges ∧ edge.owner = target ∧ edge.key.referenced = current := by
  simp [towards]

theorem mem_awayFrom_iff {edge : Edge} :
    edge ∈ awayFrom (.of schema) current target ↔
      edge ∈ schema.edges ∧ edge.key.referenced = target ∧ edge.owner = current := by
  simp [awayFrom]

theorem mem_named_iff {edge : Edge} :
    edge ∈ named (.of schema) current target ↔
      edge ∈ schema.edges ∧ (edge.key.isColumn target = true ∨ edge.key.name = target) ∧
        edge.owner = current := by
  simp [named]

/-- A key connects two relations if one of them declares it towards the other.  A target that is no
relation leaves one end open. -/
theorem mem_connecting_iff {edge : Edge} {direction : Direction} :
    (edge, direction) ∈ connecting (.of schema) current target ↔
      edge ∈ schema.edges ∧
        ((direction = .reverse ∧ (schema.Has target → edge.owner = target) ∧
            edge.key.referenced = current) ∨
          (direction = .forward ∧ (schema.Has target → edge.key.referenced = target) ∧
            edge.owner = current)) := by
  by_cases hhas : schema.Has target
  · obtain ⟨relation, hsome, -⟩ := Schema.relation?_of_has hhas
    cases direction <;> simp [connecting, hsome, hhas]
  · have hnone := Schema.relation?_eq_none_iff.mpr hhas
    cases direction <;> simp [connecting, hnone, hhas]

theorem single_eq_none {edges : List Edge} (h : single current target edges = .ok none) :
    edges = [] := by
  cases edges with
  | nil => rfl
  | cons edge rest => cases rest <;> cases h

theorem single_eq_some {edges : List Edge} {edge : Edge}
    (h : single current target edges = .ok (some edge)) : edges = [edge] := by
  cases edges with
  | nil => cases h
  | cons first rest =>
    cases rest with
    | nil =>
      cases h
      rfl
    | cons second rest => cases h

theorem ne_nil_of_single {edges : List Edge} {found : Except Failure (Option Edge)}
    (h : single current target edges = found) (hfound : found ≠ .ok none) : edges ≠ [] := by
  rintro rfl
  exact hfound h.symm

theorem single_eq_error {edges : List Edge} {failure : Failure}
    (h : single current target edges = .error failure) :
    failure = .ambiguous current target (edges.map candidate) := by
  cases edges with
  | nil => cases h
  | cons first rest =>
    cases rest with
    | nil => cases h
    | cons second rest =>
      cases h
      rfl

/-! ### By name -/

/-- A key of the current relation, travelled to its other end if that is a relation. -/
def onward (schema : Schema) (current : String) (edge : Edge) : Option Resolution :=
  (schema.relation? edge.key.referenced).map fun other =>
    ⟨edge.key, if other.name = current then .reverse else .forward, current, other.name, .byName⟩

/-- The place that decides what a name means: its keys, and how the only one would be travelled.
The last place decides also if it is empty. -/
inductive Decides (schema : Schema) (current target : String) :
    List Edge → (Edge → Option Resolution) → Prop
  | towards (known : schema.Has target)
      (found : Resolution.towards (.of schema) current target ≠ []) :
    Decides schema current target (Resolution.towards (.of schema) current target)
      fun edge => some ⟨edge.key, .reverse, current, target, .byName⟩
  | awayFrom (known : schema.Has target)
      (before : Resolution.towards (.of schema) current target = [])
      (found : Resolution.awayFrom (.of schema) current target ≠ []) :
    Decides schema current target (Resolution.awayFrom (.of schema) current target)
      fun edge => some ⟨edge.key, .forward, current, target, .byName⟩
  | named
      (before : schema.Has target → Resolution.towards (.of schema) current target = [] ∧
        Resolution.awayFrom (.of schema) current target = []) :
    Decides schema current target (Resolution.named (.of schema) current target)
      (onward schema current)

theorem throughKey_eq :
    throughKey (.of schema) current target =
      (single current target (named (.of schema) current target)).map
        (·.bind (onward schema current)) := by
  unfold throughKey
  cases hsingle : single current target (named (.of schema) current target) with
  | error failure => rfl
  | ok found =>
    cases found with
    | none => rfl
    | some edge =>
      cases hother : schema.relation? edge.key.referenced <;>
        simp [Except.map, onward, hother]

/-- **Under a relation of the schema one place decides what a name means.** -/
theorem byName_decided (hcurrent : schema.Has current) (target : String) :
    ∃ edges travel, Decides schema current target edges travel ∧
      byName (.of schema) current target =
        (single current target edges).map (·.bind travel) := by
  obtain ⟨source, hsource, -⟩ := Schema.relation?_of_has hcurrent
  by_cases hknown : schema.Has target
  · obtain ⟨relation, hrelation, -⟩ := Schema.relation?_of_has hknown
    cases hin : single current target (towards (.of schema) current target) with
    | error failure =>
      refine ⟨_, _, .towards hknown (ne_nil_of_single hin (by simp)), ?_⟩
      simp [byName, between, hsource, hrelation, hin, Except.map]
    | ok found =>
      cases found with
      | some edge =>
        refine ⟨_, _, .towards hknown (ne_nil_of_single hin (by simp)), ?_⟩
        simp [byName, between, hsource, hrelation, hin, Except.map]
      | none =>
        have hnoneIn := single_eq_none hin
        cases hout : single current target (awayFrom (.of schema) current target) with
        | error failure =>
          refine ⟨_, _, .awayFrom hknown hnoneIn (ne_nil_of_single hout (by simp)), ?_⟩
          simp [byName, between, hsource, hrelation, hin, hout, Except.map]
        | ok found =>
          cases found with
          | some edge =>
            refine ⟨_, _, .awayFrom hknown hnoneIn (ne_nil_of_single hout (by simp)), ?_⟩
            simp [byName, between, hsource, hrelation, hin, hout, Except.map]
          | none =>
            refine ⟨_, _, .named fun _ => ⟨hnoneIn, single_eq_none hout⟩, ?_⟩
            rw [← throughKey_eq]
            simp [byName, between, hsource, hrelation, hin, hout]
  · have hnone := Schema.relation?_eq_none_iff.mpr hknown
    refine ⟨_, _, .named fun h => absurd h hknown, ?_⟩
    rw [← throughKey_eq]
    simp [byName, between, hsource, hnone]

theorem has_of_byName {found : Except Failure (Option Resolution)}
    (h : byName (.of schema) current target = found) (hfound : found ≠ .ok none) :
    schema.Has current := by
  by_contra hnot
  unfold byName at h
  rw [Schema.Index.relation?_of, Schema.relation?_eq_none_iff.mpr hnot] at h
  exact hfound h.symm

/-- A key chosen by name was alone in the place that decides. -/
theorem byName_eq_some {resolution : Resolution}
    (h : byName (.of schema) current target = .ok (some resolution)) :
    schema.Has current ∧ ∃ edge travel, Decides schema current target [edge] travel ∧
      travel edge = some resolution := by
  have hcurrent := has_of_byName h (by simp)
  obtain ⟨edges, travel, hdecides, heq⟩ := byName_decided hcurrent target
  rw [heq] at h
  cases hsingle : single current target edges with
  | error failure =>
    rw [hsingle] at h
    cases h
  | ok found =>
    rw [hsingle] at h
    obtain ⟨edge, rfl, htravel⟩ := Option.bind_eq_some_iff.mp (Except.ok.inj h)
    rw [single_eq_some hsingle] at hdecides
    exact ⟨hcurrent, edge, travel, hdecides, htravel⟩

/-- A failure by name offers the keys of the place that decides. -/
theorem byName_eq_error {failure : Failure}
    (h : byName (.of schema) current target = .error failure) :
    schema.Has current ∧ ∃ edges travel, Decides schema current target edges travel ∧
      failure = .ambiguous current target (edges.map candidate) := by
  have hcurrent := has_of_byName h (by simp)
  obtain ⟨edges, travel, hdecides, heq⟩ := byName_decided hcurrent target
  rw [heq] at h
  cases hsingle : single current target edges with
  | error other =>
    rw [hsingle] at h
    obtain rfl : other = failure := Except.error.inj h
    exact ⟨hcurrent, edges, travel, hdecides, single_eq_error hsingle⟩
  | ok found =>
    rw [hsingle] at h
    cases h

/-! ### By hint -/

theorem follow_ends {key : ForeignKey} {direction : Direction} {other : String}
    {resolution : Resolution} :
    (match Schema.Index.relation? (.of schema) current,
        Schema.Index.relation? (.of schema) other with
      | some source, some target =>
        some (Resolution.mk key direction source.name target.name .byHint)
      | _, _ => none) = some resolution ↔
      schema.Has current ∧ schema.Has other ∧
        resolution = ⟨key, direction, current, other, .byHint⟩ := by
  rw [Schema.Index.relation?_of, Schema.Index.relation?_of]
  constructor
  · intro h
    split at h
    · rename_i source end_ hsource hend
      obtain rfl := Schema.name_of_relation? hsource
      obtain rfl := Schema.name_of_relation? hend
      exact ⟨Schema.has_of_relation? hsource, Schema.has_of_relation? hend,
        (Option.some.inj h).symm⟩
    · cases h
  · rintro ⟨hsource, hend, rfl⟩
    obtain ⟨source, hfound, hsourceName⟩ := Schema.relation?_of_has hsource
    obtain ⟨far, hfar, hfarName⟩ := Schema.relation?_of_has hend
    rw [hfound, hfar]
    simp only [hsourceName, hfarName]

/-- A key from a relation to itself is travelled backward, whichever way it was found. -/
theorem follow_self {edge : Edge} (hself : edge.owner = edge.key.referenced)
    (direction : Direction) :
    follow (.of schema) current edge direction = follow (.of schema) current edge .reverse := by
  unfold follow
  rw [if_pos hself, if_pos hself]

theorem follow_reverse {edge : Edge} {resolution : Resolution} :
    follow (.of schema) current edge .reverse = some resolution ↔
      schema.Has current ∧ schema.Has edge.owner ∧
        resolution = ⟨edge.key, .reverse, current, edge.owner, .byHint⟩ := by
  unfold follow
  rw [ite_self]
  exact follow_ends

theorem follow_forward {edge : Edge} (hother : edge.owner ≠ edge.key.referenced)
    {resolution : Resolution} :
    follow (.of schema) current edge .forward = some resolution ↔
      schema.Has current ∧ schema.Has edge.key.referenced ∧
        resolution = ⟨edge.key, .forward, current, edge.key.referenced, .byHint⟩ := by
  unfold follow
  rw [if_neg hother]
  exact follow_ends

/-- The other end of a key that is met in a direction. -/
def farEnd (edge : Edge) : Direction → String
  | .reverse => edge.owner
  | .forward => edge.key.referenced

/-- The embedding that travels a key, met in a direction, from the current relation to its other
end. -/
def travelled (current : String) (edge : Edge) (direction : Direction) : Resolution :=
  ⟨edge.key, if edge.owner = edge.key.referenced then .reverse else direction, current,
    farEnd edge direction, .byHint⟩

/-- A key can be followed from a relation if its other end is one. -/
theorem follow_eq_some_iff {edge : Edge} {direction : Direction} {resolution : Resolution} :
    follow (.of schema) current edge direction = some resolution ↔
      schema.Has current ∧ schema.Has (farEnd edge direction) ∧
        resolution = travelled current edge direction := by
  unfold travelled
  by_cases hself : edge.owner = edge.key.referenced
  · have hfar : farEnd edge direction = edge.owner := by
      cases direction with
      | reverse => rfl
      | forward => exact hself.symm
    rw [follow_self hself, follow_reverse, hfar, if_pos hself]
  · rw [if_neg hself]
    cases direction with
    | reverse => exact follow_reverse
    | forward => exact follow_forward hself

/-- A key chosen by hint is one of those that connect the two relations, bears the hint in one of
three ways, and can be followed. -/
theorem byHint_eq_some {hint : String} {resolution : Resolution}
    (h : byHint (.of schema) current target hint = some resolution) :
    ∃ edge direction, (edge, direction) ∈ connecting (.of schema) current target ∧
      (edge.key.name = hint ∨ edge.key.referenced = hint ∨ edge.key.isColumn hint = true) ∧
      follow (.of schema) current edge direction = some resolution := by
  obtain ⟨rule, hrule, hfound⟩ := List.exists_of_findSome?_eq_some h
  obtain ⟨⟨edge, direction⟩, hfind, hfollow⟩ := Option.bind_eq_some_iff.mp hfound
  refine ⟨edge, direction, List.mem_of_find?_eq_some hfind, ?_, hfollow⟩
  have hholds : rule edge.key = true := by simpa using List.find?_some hfind
  simp only [hintRules, List.mem_cons, List.not_mem_nil, or_false] at hrule
  rcases hrule with rfl | rfl | rfl
  · exact .inl (by simpa using hholds)
  · exact .inr (.inl (by simpa using hholds))
  · exact .inr (.inr hholds)

end GatewayQuery.Resolution

namespace GatewayQuery

/-- What a field resolves to is what its name or its hint means. -/
theorem resolve_eq_ok_iff {index : Schema.Index} {current : String} {field : Select.Field}
    {resolution : Resolution} :
    resolve index current field = .ok resolution ↔
      (field.hint = none ∧ Resolution.byName index current field.name = .ok (some resolution)) ∨
      (∃ hint, field.hint = some hint ∧
        Resolution.byHint index current field.name hint = some resolution) := by
  unfold resolve
  cases hhint : field.hint with
  | some hint =>
    cases hfound : Resolution.byHint index current field.name hint with
    | none => simp [hfound]
    | some found => simp [hfound]
  | none =>
    cases hfound : Resolution.byName index current field.name with
    | error failure => simp
    | ok found => cases found <;> simp

/-- A field fails to resolve if nothing is found, or if its name means several keys. -/
theorem resolve_eq_error {index : Schema.Index} {current : String} {field : Select.Field}
    {failure : Failure} (h : resolve index current field = .error failure) :
    failure = .relationshipNotFound current field.name ∨
      Resolution.byName index current field.name = .error failure := by
  unfold resolve at h
  cases hhint : field.hint with
  | some hint =>
    rw [hhint] at h
    cases hfound : Resolution.byHint index current field.name hint with
    | none =>
      simp only [hfound, Except.error.injEq] at h
      exact .inl h.symm
    | some found => simp [hfound] at h
  | none =>
    rw [hhint] at h
    cases hfound : Resolution.byName index current field.name with
    | error other =>
      simp only [hfound, Except.error.injEq] at h
      exact .inr (by rw [h])
    | ok found =>
      cases found with
      | none =>
        simp only [hfound, Except.error.injEq] at h
        exact .inl h.symm
      | some resolution => simp [hfound] at h

end GatewayQuery
