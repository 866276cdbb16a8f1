/-
When a draft becomes a request.

Two things stand in the way: a fault that a call left behind, and a select expression
that cannot be parsed.  Nothing else can go wrong, and the request is then what the
draft says, part by part.
-/
import GatewayQuery.Request.Build

namespace GatewayQuery

/-- A draft is built exactly if nothing went wrong and its select expression can be parsed. -/
theorem Draft.build_eq_ok_iff {draft : Draft} {request : Request} :
    draft.build = .ok request ↔
      draft.fault = none ∧ (∀ text ∈ draft.select, ∃ nodes, Select.parse text = .ok nodes) ∧
        request = ⟨draft.method, draft.url, draft.headers, draft.body, draft.response⟩ := by
  unfold build
  cases hfault : draft.fault with
  | some fault =>
    constructor
    · intro h
      cases h
    · rintro ⟨h, -⟩
      cases h
  | none =>
    cases hselect : draft.select with
    | none =>
      constructor
      · intro h
        cases h
        exact ⟨rfl, by simp, rfl⟩
      · rintro ⟨-, -, rfl⟩
        rfl
    | some text =>
      cases hparse : Select.parse text with
      | error error =>
        simp only [hparse]
        constructor
        · intro h
          cases h
        · rintro ⟨-, hall, -⟩
          obtain ⟨nodes, hnodes⟩ := hall text rfl
          rw [hparse] at hnodes
          cases hnodes
      | ok nodes =>
        simp only [hparse]
        constructor
        · intro h
          cases h
          refine ⟨trivial, ?_, rfl⟩
          rintro _ ⟨rfl⟩
          exact ⟨nodes, hparse⟩
        · rintro ⟨-, -, rfl⟩
          rfl

/-- A draft is refused for its fault, or without one for its select expression. -/
theorem Draft.build_eq_error_iff {draft : Draft} {error : BuildError} :
    draft.build = .error error ↔
      draft.fault = some error ∨
        draft.fault = none ∧ ∃ text ∈ draft.select, ∃ fault,
          Select.parse text = .error fault ∧ error = .select fault := by
  unfold build
  cases hfault : draft.fault with
  | some fault => simp
  | none =>
    cases hselect : draft.select with
    | none => simp
    | some text =>
      cases hparse : Select.parse text with
      | error found => simp [hparse, eq_comm]
      | ok nodes => simp [hparse]

/-- Setting rows is a matter of the parameters, the body and what is wrong. -/
theorem Draft.setRows_eq (draft : Draft) (values : Json) :
    ∃ params body fault, draft.setRows values =
      { draft with params := params, body := body, fault := fault } := by
  unfold setRows
  split
  · exact ⟨_, _, _, rfl⟩
  · split
    · exact ⟨_, _, _, rfl⟩
    · exact ⟨_, _, _, rfl⟩
  · exact ⟨_, _, _, rfl⟩

/-- Only what an expression is parsed to decides the shape of its rows. -/
theorem selectShape_of_parse {input other : String} {nodes : List Select.Node}
    (h : Select.parse input = .ok nodes) (hother : Select.parse other = .ok nodes)
    (schema : Schema) (root : String) :
    selectShape schema root input = selectShape schema root other := by
  unfold selectShape
  rw [h, hother]

end GatewayQuery
