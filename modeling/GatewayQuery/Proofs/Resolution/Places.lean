/-
What a choice depends on.

A name is looked up in three places, and a hint among the keys that connect two relations.
Nothing else of a schema is read, but for which relations there are.  So two schemas that hold
the same keys in these places resolve a field in the same way; and if the keys stand in another
order there, the only trace of it is the order in which an ambiguity offers them.
-/
import GatewayQuery.Proofs.Resolution.Choice

namespace GatewayQuery.Resolution

open Schema (Index Edge)
open Select (Field)

variable {schema twin : Schema} {current target : String}

/-! ### By name -/

/-- Two schemas have related keys in the places where a name is looked up, and know the same of the
relations that are asked for. -/
structure SamePlaces (Keys : List Edge → List Edge → Prop) (schema twin : Schema)
    (current target : String) : Prop where
  source : schema.Has current
  twinSource : twin.Has current
  known : schema.Has target ↔ twin.Has target
  towards : Keys (Resolution.towards (.of schema) current target)
    (Resolution.towards (.of twin) current target)
  awayFrom : Keys (Resolution.awayFrom (.of schema) current target)
    (Resolution.awayFrom (.of twin) current target)
  named : Keys (Resolution.named (.of schema) current target)
    (Resolution.named (.of twin) current target)
  referenced : ∀ edge ∈ Resolution.named (.of schema) current target,
    schema.Has edge.key.referenced ↔ twin.Has edge.key.referenced

/-- Two look-ups end the same way, or both in an ambiguity between keys that are related. -/
def SameChoice {α : Type} (Keys : List Edge → List Edge → Prop) (current target : String)
    (found twin : Except Failure α) : Prop :=
  found = twin ∨ ∃ edges others, Keys edges others ∧
    found = .error (.ambiguous current target (edges.map candidate)) ∧
    twin = .error (.ambiguous current target (others.map candidate))

/-- Keys in another order are as many, and the only one of them is the same. -/
theorem single_perm {edges others : List Edge} (h : edges.Perm others) :
    single current target edges = single current target others ∨
      (single current target edges = .error (.ambiguous current target (edges.map candidate)) ∧
        single current target others =
          .error (.ambiguous current target (others.map candidate))) := by
  match edges, others, h.length_eq with
  | [], [], _ => exact .inl rfl
  | [edge], [other], _ =>
    rw [List.singleton_perm_singleton.mp h]
    exact .inl rfl
  | _ :: _ :: _, _ :: _ :: _, _ => exact .inr ⟨rfl, rfl⟩

theorem onward_congr {edge : Edge}
    (h : schema.Has edge.key.referenced ↔ twin.Has edge.key.referenced) :
    onward schema current edge = onward twin current edge := by
  unfold onward
  by_cases hknown : schema.Has edge.key.referenced
  · obtain ⟨relation, hrelation, hname⟩ := Schema.relation?_of_has hknown
    obtain ⟨other, hother, hotherName⟩ := Schema.relation?_of_has (h.mp hknown)
    rw [hrelation, hother, Option.map_some, Option.map_some, hname, hotherName]
  · rw [Schema.relation?_eq_none_iff.mpr hknown,
      Schema.relation?_eq_none_iff.mpr fun hother => hknown (h.mpr hother)]

variable {Keys : List Edge → List Edge → Prop}

theorem SamePlaces.throughKey (h : SamePlaces Keys schema twin current target)
    (hperm : ∀ edges others, Keys edges others → edges.Perm others) :
    SameChoice Keys current target (throughKey (.of schema) current target)
      (throughKey (.of twin) current target) := by
  rw [throughKey_eq, throughKey_eq]
  obtain hsame | ⟨hfound, htwin⟩ := single_perm (hperm _ _ h.named)
  · refine .inl ?_
    rw [← hsame]
    cases hsingle : single current target (Resolution.named (.of schema) current target) with
    | error failure => rfl
    | ok found =>
      cases found with
      | none => rfl
      | some edge =>
        have hedge : edge ∈ Resolution.named (.of schema) current target := by
          rw [single_eq_some hsingle]
          exact List.mem_singleton_self edge
        show Except.ok (onward schema current edge) = .ok (onward twin current edge)
        rw [onward_congr (h.referenced edge hedge)]
  · refine .inr ⟨_, _, h.named, ?_, ?_⟩
    · rw [hfound]
      rfl
    · rw [htwin]
      rfl

theorem SamePlaces.between (h : SamePlaces Keys schema twin current target)
    (hperm : ∀ edges others, Keys edges others → edges.Perm others) :
    SameChoice Keys current target (between (.of schema) current target)
      (between (.of twin) current target) := by
  unfold Resolution.between
  simp only [Schema.Index.relation?_of]
  by_cases hknown : schema.Has target
  · obtain ⟨relation, hrelation, -⟩ := Schema.relation?_of_has hknown
    obtain ⟨other, hother, -⟩ := Schema.relation?_of_has (h.known.mp hknown)
    simp only [hrelation, hother]
    obtain hsame | ⟨hfound, htwin⟩ := single_perm (hperm _ _ h.towards)
    · rw [← hsame]
      cases hin : single current target (Resolution.towards (.of schema) current target) with
      | error failure => exact .inl rfl
      | ok found =>
        cases found with
        | some edge => exact .inl rfl
        | none =>
          obtain hsameOut | ⟨hfound, htwin⟩ := single_perm (hperm _ _ h.awayFrom)
          · rw [← hsameOut]
            exact .inl rfl
          · exact .inr ⟨_, _, h.awayFrom, by rw [hfound], by rw [htwin]⟩
    · exact .inr ⟨_, _, h.towards, by rw [hfound], by rw [htwin]⟩
  · rw [Schema.relation?_eq_none_iff.mpr hknown,
      Schema.relation?_eq_none_iff.mpr fun hother => hknown (h.known.mpr hother)]
    exact .inl rfl

/-- **A name means the same under two schemas that agree on the three places.** -/
theorem SamePlaces.byName (h : SamePlaces Keys schema twin current target)
    (hperm : ∀ edges others, Keys edges others → edges.Perm others) :
    SameChoice Keys current target (byName (.of schema) current target)
      (byName (.of twin) current target) := by
  obtain ⟨source, hsource, -⟩ := Schema.relation?_of_has h.source
  obtain ⟨other, hother, -⟩ := Schema.relation?_of_has h.twinSource
  unfold Resolution.byName
  simp only [Schema.Index.relation?_of, hsource, hother]
  obtain hsame | ⟨edges, others, hkeys, hfound, htwin⟩ := h.between hperm
  · rw [← hsame]
    cases hbetween : Resolution.between (.of schema) current target with
    | error failure => exact .inl rfl
    | ok found =>
      cases found with
      | some resolution => exact .inl rfl
      | none => exact h.throughKey hperm
  · exact .inr ⟨edges, others, hkeys, by rw [hfound], by rw [htwin]⟩

/-! ### By hint -/

theorem follow_congr (h : ∀ name, schema.Has name ↔ twin.Has name) (edge : Edge)
    (direction : Direction) :
    follow (.of schema) current edge direction = follow (.of twin) current edge direction := by
  refine Option.ext ?_
  intro resolution
  rw [follow_eq_some_iff, follow_eq_some_iff, h current, h (farEnd edge direction)]

/-- Whatever is asked of two schemas with the same keys in which the same relations are known, they
answer alike. -/
theorem byHint_congr (hhas : ∀ name, schema.Has name ↔ twin.Has name)
    (hedges : schema.edges = twin.edges) (hint : String) :
    byHint (.of schema) current target hint = byHint (.of twin) current target hint := by
  have hknown : (schema.relation? target).isNone = (twin.relation? target).isNone := by
    rw [Bool.eq_iff_iff, Option.isNone_iff_eq_none, Option.isNone_iff_eq_none,
      Schema.relation?_eq_none_iff, Schema.relation?_eq_none_iff, hhas target]
  have hconnecting : connecting (.of schema) current target =
      connecting (.of twin) current target := by
    unfold connecting
    simp only [Schema.Index.relation?_of, Schema.Index.incoming_of, Schema.Index.outgoing_of,
      hedges, hknown]
  have hfollow : follow (.of schema) current = follow (.of twin) current := by
    funext edge direction
    exact follow_congr hhas edge direction
  unfold byHint
  rw [hconnecting, hfollow]

/-! ### Fields -/

/-- A field without a hint means what its name means. -/
theorem SamePlaces.resolve {field : Field} (h : SamePlaces Keys schema twin current field.name)
    (hhint : field.hint = none) (hperm : ∀ edges others, Keys edges others → edges.Perm others) :
    SameChoice Keys current field.name (resolve (.of schema) current field)
      (resolve (.of twin) current field) := by
  unfold GatewayQuery.resolve
  simp only [hhint]
  obtain hsame | ⟨edges, others, hkeys, hfound, htwin⟩ := h.byName hperm
  · rw [hsame]
    exact .inl rfl
  · exact .inr ⟨edges, others, hkeys, by rw [hfound], by rw [htwin]⟩

/-- **What a field resolves to depends on the keys and on which relations there are.** -/
theorem resolve_congr (hcurrent : schema.Has current)
    (hhas : ∀ name, schema.Has name ↔ twin.Has name) (hedges : schema.edges = twin.edges)
    (field : Field) :
    GatewayQuery.resolve (.of schema) current field =
      GatewayQuery.resolve (.of twin) current field := by
  have hplaces : SamePlaces Eq schema twin current field.name := {
    source := hcurrent
    twinSource := (hhas current).mp hcurrent
    known := hhas field.name
    towards := by simp only [Resolution.towards, Schema.Index.incoming_of, hedges]
    awayFrom := by simp only [Resolution.awayFrom, Schema.Index.outgoing_of, hedges]
    named := by simp only [Resolution.named, Schema.Index.outgoing_of, hedges]
    referenced := fun edge _ => hhas edge.key.referenced }
  have hname : byName (.of schema) current field.name = byName (.of twin) current field.name := by
    obtain hsame | ⟨edges, others, rfl, hfound, htwin⟩ :=
      hplaces.byName fun edges others h => by rw [h]
    · exact hsame
    · rw [hfound, htwin]
  unfold GatewayQuery.resolve
  simp only [hname, byHint_congr hhas hedges]

end GatewayQuery.Resolution
