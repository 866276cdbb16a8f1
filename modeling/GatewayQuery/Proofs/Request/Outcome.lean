/-
Why a request is refused.

A draft has one place for a fault, and the first fault stays there.  A select expression is not
looked at before the request is built, and a later one takes the place of an earlier one.  So two
lists tell what becomes of a draft: what is wrong with its operation and its calls, and the select
expressions that were given, both in the order of the calls.  The request is refused for the first
of the one; if nothing is wrong, for the last of the other; and else it is built.

Whether the base can have a path was settled when the client was made, so no request is refused for
that.
-/
import GatewayQuery.Proofs.Request.Build
import Mathlib.Data.Option.Basic

namespace GatewayQuery

variable {access : Access}

/-! ### What can be wrong with a call -/

def Json.isObject : Json → Bool
  | .object _ => true
  | _ => false

/-- An object, or an array of nothing but objects. -/
def Json.isRows : Json → Bool
  | .object _ => true
  | .array items => items.all Json.isObject
  | _ => false

namespace Operation

/-- The values to insert. -/
def inserted? : Operation access → Option Json
  | .insert values _ _ => some values
  | .upsert values _ _ _ _ => some values
  | _ => none

/-- Values that are no rows. -/
def offence (operation : Operation access) : Option BuildError :=
  if operation.inserted?.all Json.isRows then none else some .invalidValues

/-- The select expression that an operation begins with, as it was given. -/
def columns? : Operation access → Option String
  | .select columns _ _ => some columns
  | _ => none

end Operation

namespace Call

/-- A range that ends before it starts. -/
def offence : Call access → Option BuildError
  | .range first last _ => if first ≤ last then none else some (.invalidRange first last)
  | _ => none

/-- The select expression of a call, as it was given. -/
def columns? : Call access → Option String
  | .select columns => some columns
  | _ => none

theorem offence_eq_none_iff {call : Call access} :
    call.offence = none ↔ ∀ first last table, call = .range first last table → first ≤ last := by
  cases call with
  | range first last table => simp [offence]
  | _ => simp [offence]

end Call

/-- All that is wrong, the operation first and then the calls in their order. -/
def offences (operation : Operation access) (calls : List (Call access)) : List BuildError :=
  operation.offence.toList ++ calls.filterMap Call.offence

/-- The select expressions that were given, the last one at the end. -/
def selections (operation : Operation access) (calls : List (Call access)) : List String :=
  operation.columns?.toList ++ calls.filterMap Call.columns?

/-- Nothing is wrong but rows and ranges. -/
theorem mem_offences {operation : Operation access} {calls : List (Call access)}
    {error : BuildError} (h : error ∈ offences operation calls) :
    error = .invalidValues ∨ ∃ first last, last < first ∧ error = .invalidRange first last := by
  rcases List.mem_append.mp h with hstart | hcall
  · rw [Option.mem_toList, Operation.offence] at hstart
    split at hstart
    · cases hstart
    · exact .inl (Option.some.inj hstart).symm
  · obtain ⟨call, -, hoffence⟩ := List.mem_filterMap.mp hcall
    cases call with
    | range first last table =>
      rw [Call.offence] at hoffence
      split at hoffence
      · cases hoffence
      · next hrange =>
        exact .inr ⟨first, last, by omega, (Option.some.inj hoffence).symm⟩
    | _ => cases hoffence

theorem offences_eq_nil_iff {operation : Operation access} {calls : List (Call access)} :
    offences operation calls = [] ↔
      (∀ values ∈ operation.inserted?, values.isRows = true) ∧
        ∀ first last table, .range first last table ∈ calls → first ≤ last := by
  have hrows : operation.offence.toList = [] ↔
      ∀ values ∈ operation.inserted?, values.isRows = true := by
    rw [Option.toList_eq_nil_iff, Operation.offence]
    cases operation.inserted? <;> simp
  have hranges : calls.filterMap Call.offence = [] ↔
      ∀ first last table, .range first last table ∈ calls → first ≤ last := by
    rw [List.filterMap_eq_nil_iff]
    constructor
    · intro h first last table hmem
      exact Call.offence_eq_none_iff.mp (h _ hmem) first last table rfl
    · intro h call hmem
      refine Call.offence_eq_none_iff.mpr fun first last table hcall => ?_
      exact h first last table (hcall ▸ hmem)
  rw [offences, List.append_eq_nil_iff, hrows, hranges]

namespace Draft

/-! ### Rows -/

theorem isSome_rowKeys? (row : Json) : (rowKeys? row).isSome = row.isObject := by
  cases row <;> rfl

/-- The columns of some rows are found if all of them are objects. -/
theorem isSome_columnsOf? (rows : List Json) :
    (columnsOf? rows).isSome = rows.all Json.isObject := by
  rw [columnsOf?, Option.isSome_map]
  induction rows with
  | nil => rfl
  | cons row rest ih =>
    rw [List.all_cons, ← isSome_rowKeys?, ← ih, List.mapM_cons]
    cases rowKeys? row with
    | none => rfl
    | some keys => cases rest.mapM rowKeys? <;> rfl

theorem fault_setRows (draft : Draft) (values : Json) :
    (draft.setRows values).fault =
      draft.fault.or (if values.isRows then none else some .invalidValues) := by
  cases values with
  | object members => exact Option.or_none.symm
  | array rows =>
    rw [Json.isRows, ← isSome_columnsOf?]
    simp only [setRows]
    cases columnsOf? rows with
    | none => rfl
    | some columns => exact Option.or_none.symm
  | _ => rfl

theorem select_setRows (draft : Draft) (values : Json) :
    (draft.setRows values).select = draft.select := by
  obtain ⟨params, body, fault, hset⟩ := setRows_eq draft values
  rw [hset]

/-! ### Starting and adding -/

theorem fault_start (client : Client) (relation : String) (operation : Operation access) :
    (start client relation operation).fault = operation.offence := by
  cases operation with
  | insert values count defaultToNull => exact fault_setRows _ values
  | upsert values onConflict ignoreDuplicates count defaultToNull => exact fault_setRows _ values
  | _ => rfl

theorem select_start (client : Client) (relation : String) (operation : Operation access) :
    (start client relation operation).select = operation.columns?.map Select.clean := by
  cases operation with
  | insert values count defaultToNull => exact select_setRows _ values
  | upsert values onConflict ignoreDuplicates count defaultToNull => exact select_setRows _ values
  | _ => rfl

/-- A call leaves a fault where it is. -/
theorem fault_apply (draft : Draft) (call : Call access) :
    (draft.apply call).fault = draft.fault.or call.offence := by
  cases call with
  | range first last table =>
    rw [apply, Call.offence]
    by_cases h : last < first
    · rw [if_pos h, if_neg (by omega)]
      rfl
    · rw [if_neg h, if_pos (by omega)]
      exact Option.or_none.symm
  | _ => exact Option.or_none.symm

/-- A call that gives an expression takes the place of the one before. -/
theorem select_apply (draft : Draft) (call : Call access) :
    (draft.apply call).select = (call.columns?.map Select.clean).or draft.select := by
  cases call with
  | range first last table =>
    rw [apply]
    split <;> rfl
  | _ => rfl

theorem fault_applyAll (draft : Draft) (calls : List (Call access)) :
    (draft.applyAll calls).fault = draft.fault.or (calls.filterMap Call.offence).head? := by
  induction calls generalizing draft with
  | nil => exact Option.or_none.symm
  | cons call rest ih =>
    rw [applyAll, List.foldl_cons]
    refine (ih (draft.apply call)).trans ?_
    rw [fault_apply, Option.or_assoc, List.filterMap_cons]
    cases call.offence <;> rfl

theorem select_applyAll (draft : Draft) (calls : List (Call access)) :
    (draft.applyAll calls).select =
      ((calls.filterMap Call.columns?).getLast?.map Select.clean).or draft.select := by
  induction calls generalizing draft with
  | nil => rfl
  | cons call rest ih =>
    rw [applyAll, List.foldl_cons]
    refine (ih (draft.apply call)).trans ?_
    rw [select_apply, ← Option.or_assoc, List.filterMap_cons]
    cases call.columns? with
    | none => rw [Option.map_none, Option.or_none]
    | some columns =>
      rw [List.getLast?_cons]
      cases (rest.filterMap Call.columns?).getLast? <;> rfl

/-- The fault of a draft is the first thing that is wrong. -/
theorem fault_eq_head? (client : Client) (relation : String) (operation : Operation access)
    (calls : List (Call access)) :
    ((start client relation operation).applyAll calls).fault =
      (offences operation calls).head? := by
  rw [fault_applyAll, fault_start, offences]
  cases operation.offence <;> rfl

/-- The expression of a draft is the last one that was given, cleaned. -/
theorem select_eq_getLast? (client : Client) (relation : String) (operation : Operation access)
    (calls : List (Call access)) :
    ((start client relation operation).applyAll calls).select =
      (selections operation calls).getLast?.map Select.clean := by
  rw [select_applyAll, select_start, selections, List.getLast?_append]
  cases (calls.filterMap Call.columns?).getLast? with
  | none => cases operation.columns? <;> rfl
  | some columns => rfl

/-! ### The outcome -/

/-- **A request is refused for the first thing that is wrong, and only then for its select
expression.**  It is built exactly if the values to insert are an object or an array of objects, no
range ends before it starts, and the select expression that was given last can be parsed once it is
cleaned.  Otherwise the error is that of the earliest operation or call at fault, or, when there is
none, the error of the parser; that the base has no path is never the reason. -/
theorem build_outcome (client : Client) (relation : String) (operation : Operation access)
    (calls : List (Call access)) :
    ((∃ request, ((start client relation operation).applyAll calls).build = .ok request) ↔
        (∀ values ∈ operation.inserted?, values.isRows = true) ∧
          (∀ first last table, .range first last table ∈ calls → first ≤ last) ∧
          ∀ columns ∈ (selections operation calls).getLast?,
            ∃ nodes, Select.parse (Select.clean columns) = .ok nodes) ∧
      (∀ error, ((start client relation operation).applyAll calls).build = .error error ↔
        (offences operation calls).head? = some error ∨
          offences operation calls = [] ∧
            ∃ columns ∈ (selections operation calls).getLast?, ∃ fault,
              Select.parse (Select.clean columns) = .error fault ∧ error = .select fault) ∧
      ∀ text, ((start client relation operation).applyAll calls).build ≠
        .error (.cannotBeBase text) := by
  have hfault := fault_eq_head? client relation operation calls
  have hselect := select_eq_getLast? client relation operation calls
  generalize (start client relation operation).applyAll calls = draft at hfault hselect
  refine ⟨?_, fun error => ?_, fun text hbuild => ?_⟩
  · simp only [build_eq_ok_iff, exists_and_left, exists_eq, and_true]
    rw [hfault, List.head?_eq_none_iff, offences_eq_nil_iff, hselect, and_assoc,
      Option.forall_mem_map]
  · rw [build_eq_error_iff, hfault, hselect, List.head?_eq_none_iff,
      Option.exists_mem_map]
  · rcases build_eq_error_iff.mp hbuild with hfirst | ⟨-, columns, -, fault, -, hcannot⟩
    · rw [hfault] at hfirst
      rcases mem_offences (List.mem_of_head? hfirst) with hcannot | ⟨first, last, -, hcannot⟩ <;>
        cases hcannot
    · cases hcannot

/-- A range at fault comes before the expression, although that was given first. -/
example (client : Client) :
    ((start client "users" (.select "id(" false none)).applyAll
      ([.limit 3 none, .range 5 2 none] : List (Call .read))).build =
        .error (.invalidRange 5 2) := rfl

end Draft

end GatewayQuery
