/-
The rows of an insertion.

Rows that are inserted together need not have the same keys, so the request lists the columns that
any of them has.  The list is gathered row by row, and a value that is no row ends the gathering:
then the whole insertion is refused, and nothing of the rows before it is left behind.

What the list has to be is said without the gathering: it holds the keys of all rows, none of them
twice, and what comes first in it was met first.
-/
import GatewayQuery.Proofs.Request.Filters
import GatewayQuery.Proofs.Request.Outcome
import GatewayQuery.Proofs.Shape.History
import Mathlib.Data.List.Basic

namespace GatewayQuery

variable {access : Access}

/-- The keys of an object, in its order. -/
def Json.keys : Json → List String
  | .object members => Keyed.keys members
  | _ => []

/-- The keys of some rows as one meets them, row by row. -/
def keysMet (rows : List Json) : List String := rows.flatMap Json.keys

/-- The columns are the keys of the rows, each once, in the order in which they are met first. -/
structure ListsKeys (rows : List Json) (columns : List String) : Prop where
  distinct : columns.Nodup
  complete : ∀ key, key ∈ columns ↔ ∃ row ∈ rows, key ∈ row.keys
  ordered : columns.Pairwise fun key other =>
    (keysMet rows).idxOf key < (keysMet rows).idxOf other

/-! ### The order of first occurrence -/

theorem pairwise_idxOf_eraseDups (names : List String) :
    names.eraseDups.Pairwise fun name other => names.idxOf name < names.idxOf other := by
  induction names using List.reverseRecOn with
  | nil => exact List.Pairwise.nil
  | append_singleton names name ih =>
    -- what was met before is found where it was
    have hbefore : names.eraseDups.Pairwise fun first second =>
        (names ++ [name]).idxOf first < (names ++ [name]).idxOf second := by
      refine ih.imp_of_mem fun {first second} hfirst hsecond hlt => ?_
      rw [List.idxOf_append_of_mem (List.mem_eraseDups.mp hfirst),
        List.idxOf_append_of_mem (List.mem_eraseDups.mp hsecond)]
      exact hlt
    rw [Shape.eraseDups_concat]
    split
    · exact hbefore
    · next hnew =>
      refine List.pairwise_append.mpr ⟨hbefore, List.pairwise_singleton _ _, ?_⟩
      rintro first hfirst second hsecond
      have hmem := List.mem_eraseDups.mp hfirst
      rw [List.mem_singleton.mp hsecond, List.idxOf_append_of_mem hmem,
        List.idxOf_append_of_notMem hnew]
      exact Nat.lt_add_right _ (List.idxOf_lt_length_of_mem hmem)

theorem nodup_eraseDups (names : List String) : names.eraseDups.Nodup :=
  (pairwise_idxOf_eraseDups names).imp fun {_ _} hlt hsame => by
    rw [hsame] at hlt
    exact Nat.lt_irrefl _ hlt

theorem listsKeys_keysMet (rows : List Json) : ListsKeys rows (keysMet rows).eraseDups where
  distinct := nodup_eraseDups _
  complete := fun key => by rw [List.mem_eraseDups, keysMet, List.mem_flatMap]
  ordered := pairwise_idxOf_eraseDups _

/-! ### Gathering the columns -/

namespace Draft

theorem rowKeys?_of_isObject {row : Json} (h : row.isObject = true) :
    rowKeys? row = some row.keys := by
  cases row with
  | object members => rfl
  | _ => cases h

/-- Where every value is a row, the columns are all their keys without repetitions. -/
theorem columnsOf?_of_all {rows : List Json} (h : rows.all Json.isObject = true) :
    columnsOf? rows = some (keysMet rows).eraseDups := by
  have hkeys : rows.mapM rowKeys? = some (rows.map Json.keys) := by
    induction rows with
    | nil => rfl
    | cons row rest ih =>
      rw [List.all_cons, Bool.and_eq_true] at h
      rw [List.mapM_cons, rowKeys?_of_isObject h.1, ih h.2]
      rfl
  rw [columnsOf?, hkeys, Option.map_some, keysMet, List.flatMap_def]

/-- One value that is no row is enough for no columns, wherever it stands. -/
theorem columnsOf?_of_not_all {rows : List Json} (h : rows.all Json.isObject = false) :
    columnsOf? rows = none := by
  rw [← Option.isNone_iff_eq_none, ← Option.not_isSome, isSome_columnsOf?, h]
  rfl

end Draft

/-! ### Insertions -/

/-- The parameters of an insertion before its rows are looked at. -/
def Operation.target : Operation access → List (String × String)
  | .upsert _ onConflict _ _ _ => (onConflict.map ("on_conflict", ·)).toList
  | _ => []

/-- Rows were stored: nothing is wrong, they are the body as they were given, and behind the
parameters that were there before stand the quoted columns with commas between them. -/
structure Draft.StoresRows (draft : Draft) (before : List (String × String)) (rows : List Json) :
    Prop where
  fault : draft.fault = none
  body : draft.body = some (.array rows)
  params : ∃ columns, ListsKeys rows columns ∧ draft.params = before ++
    [("columns", ",".intercalate (columns.map fun column => "\"" ++ column ++ "\""))]

/-- Values were refused and left nothing behind. -/
structure Draft.RefusesRows (draft : Draft) (before : List (String × String)) : Prop where
  fault : draft.fault = some .invalidValues
  body : draft.body = none
  params : draft.params = before

/-- One row was stored: it is the body, and no columns are listed. -/
structure Draft.StoresRow (draft : Draft) (before : List (String × String)) (row : Json) :
    Prop where
  fault : draft.fault = none
  body : draft.body = some row
  params : draft.params = before
  columns : "columns" ∉ Keyed.keys draft.params

namespace Draft

/-- An insertion sets its rows in a draft that holds nothing but its own parameters. -/
theorem start_of_inserted (client : Client) (relation : String) {operation : Operation access}
    {values : Json} (h : operation.inserted? = some values) :
    ∃ draft : Draft, start client relation operation = draft.setRows values ∧
      draft.fault = none ∧ draft.body = none ∧ draft.params = operation.target := by
  cases operation with
  | insert given count defaultToNull =>
    obtain rfl := Option.some.inj h
    exact ⟨_, rfl, rfl, rfl, rfl⟩
  | upsert given onConflict ignoreDuplicates count defaultToNull =>
    obtain rfl := Option.some.inj h
    exact ⟨_, rfl, rfl, rfl, rfl⟩
  | _ => cases h

theorem columns_not_mem_target (operation : Operation access) :
    "columns" ∉ Keyed.keys operation.target := by
  cases operation with
  | upsert values onConflict ignoreDuplicates count defaultToNull =>
    cases onConflict <;> simp [Operation.target, Keyed.keys]
  | _ => exact List.not_mem_nil

theorem storesRows_setRows {draft : Draft} {rows : List Json}
    (hrows : rows.all Json.isObject = true) (hfault : draft.fault = none)
    (hcolumns : "columns" ∉ Keyed.keys draft.params) :
    (draft.setRows (.array rows)).StoresRows draft.params rows := by
  have hset : draft.setRows (.array rows) =
      (draft.set "columns" (printColumns (keysMet rows).eraseDups)).setBody (.array rows) := by
    rw [setRows, columnsOf?_of_all hrows]
  refine ⟨?_, ?_, (keysMet rows).eraseDups, listsKeys_keysMet rows, ?_⟩
  · rw [hset]
    exact hfault
  · rw [hset]
    rfl
  · rw [hset]
    exact Keyed.alter_of_not_mem hcolumns _

theorem refusesRows_setRows {draft : Draft} {rows : List Json}
    (hrows : rows.all Json.isObject = false) (hfault : draft.fault = none)
    (hbody : draft.body = none) : (draft.setRows (.array rows)).RefusesRows draft.params := by
  have hset : draft.setRows (.array rows) = draft.fail .invalidValues := by
    rw [setRows, columnsOf?_of_not_all hrows]
  rw [hset]
  exact ⟨by rw [fail, hfault]; rfl, hbody, rfl⟩

/-- **What an insertion does with its values.**  Rows in an array are stored with the list of all
their columns.  If one of the values in the array is no row, wherever it stands, the insertion is at
fault and holds no body and no parameter but its own.  A row by itself is stored without a list. -/
theorem rows_stored (client : Client) (relation : String) {operation : Operation access}
    {values : Json} (h : operation.inserted? = some values) :
    (∀ rows, values = .array rows →
        (rows.all Json.isObject = true →
          (start client relation operation).StoresRows operation.target rows) ∧
        (rows.all Json.isObject = false →
          (start client relation operation).RefusesRows operation.target)) ∧
      ∀ members, values = .object members →
        (start client relation operation).StoresRow operation.target values := by
  obtain ⟨draft, hstart, hfault, hbody, hparams⟩ := start_of_inserted client relation h
  have hcolumns := columns_not_mem_target operation
  rw [hstart]
  rw [← hparams] at hcolumns ⊢
  refine ⟨?_, ?_⟩
  · rintro rows rfl
    exact ⟨fun hrows => storesRows_setRows hrows hfault hcolumns,
      fun hrows => refusesRows_setRows hrows hfault hbody⟩
  · rintro members rfl
    exact ⟨hfault, rfl, rfl, hcolumns⟩

/-- The second row has a key before one that the first row has, and the third one has no key. -/
def overlappingRows : List Json :=
  [.object [("id", .number (.whole 1)), ("name", .string "alice")],
    .object [("age", .null), ("id", .number (.whole 2))], .object []]

/-- Three rows are stored with three columns; a number behind them spoils them all. -/
theorem rows_stored_overlapping :
    (start .localhost "users"
        (.upsert (.array overlappingRows) (some "id") false none true)).StoresRows
          [("on_conflict", "id")] overlappingRows ∧
      (start .localhost "users"
        (.upsert (.array overlappingRows) (some "id") false none true)).params =
          [("on_conflict", "id"), ("columns", "\"id\",\"name\",\"age\"")] ∧
      (start .localhost "users" (.insert (.array (overlappingRows ++ [.number (.whole 2)])) none
        true)).RefusesRows [] ∧
      (start .localhost "users" (.insert (.object [("id", .null)]) none true)).StoresRow []
        (.object [("id", .null)]) :=
  ⟨((rows_stored .localhost "users" rfl).1 _ rfl).1 rfl, rfl,
    ((rows_stored .localhost "users" rfl).1 _ rfl).2 rfl,
    (rows_stored .localhost "users" rfl).2 _ rfl⟩

end Draft

end GatewayQuery
