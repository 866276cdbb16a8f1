/-
Which filters reach the gateway.

Filters and settings share one list of parameters, and a setting is written into the
first parameter with its name, whoever put it there.  So a filter on a column with the
name of a setting, `limit` say, may be written over by a later call.  To tell what
becomes of every filter the parameters are followed with the value that a filter gave
them beside the one they hold now.

Two facts carry everything.  Under one name only the first parameter is ever written,
so all others still hold what a filter gave them.  And where the first one comes from a
filter no setting ever added one, so under that name there are as many parameters as
filters: if one of them was written over, no other can stand in for it.
-/
import GatewayQuery.Proofs.Request.Settings
import Mathlib.Data.List.Basic

namespace GatewayQuery

variable {access : Access}

/-! ### Parameters and where they came from -/

/-- The value of a parameter, and the value that a filter gave it if it comes from one. -/
structure Traced where
  value : String
  origin : Option String

namespace Traced

/-- What a filter adds. -/
def ofFilter (value : String) : Traced := ⟨value, some value⟩

/-- What a setting writes.  It does not change where the parameter came from. -/
def rewrite (change : Option String → String) (held : Option Traced) : Traced :=
  ⟨change (held.map value), held.bind origin⟩

/-- The parameter holds what a filter gave it, if one did. -/
def Kept (held : Traced) : Prop := ∀ given ∈ held.origin, held.value = given

end Traced

/-- Parameters under their names. -/
abbrev Ledger := List (String × Traced)

namespace Ledger

/-- The parameters as they are sent. -/
def params (ledger : Ledger) : List (String × String) := Keyed.mapValues Traced.value ledger

/-- The parameters as filters gave them. -/
def given (ledger : Ledger) : List (String × String) :=
  ledger.filterMap fun entry => entry.2.origin.map (entry.1, ·)

/-- Settings, to be written into traced parameters. -/
def traceAll (writes : List (String × (Option String → String))) :
    List (String × (Option Traced → Traced)) :=
  Keyed.mapValues Traced.rewrite writes

/-- What a call does to traced parameters. -/
def step (ledger : Ledger) (call : Call access) : Ledger :=
  writeAll (traceAll call.writes) ledger ++ Keyed.mapValues Traced.ofFilter call.added

def run (ledger : Ledger) (calls : List (Call access)) : Ledger := calls.foldl step ledger

/-- Under each name, all parameters but the first hold what a filter gave them. -/
def Faithful (ledger : Ledger) : Prop :=
  ∀ name, ∀ held ∈ (Keyed.named name ledger).tail, held.origin = some held.value

/-! ### Writing settings -/

theorem mapValues_writeAll (writes : List (String × (Option String → String))) (ledger : Ledger) :
    Keyed.mapValues Traced.value (writeAll (traceAll writes) ledger) =
      writeAll writes (Keyed.mapValues Traced.value ledger) := by
  induction writes generalizing ledger with
  | nil => rfl
  | cons write writes ih =>
    have hone := Keyed.mapValues_alter Traced.value write.1
      (fun held => (rfl : (Traced.rewrite write.2 held).value = write.2 (held.map Traced.value)))
      ledger
    have hall := ih (Keyed.alter write.1 (Traced.rewrite write.2) ledger)
    rw [hone] at hall
    exact hall

theorem given_cons (name : String) (held : Traced) (rest : Ledger) :
    given ((name, held) :: rest) = (held.origin.map (name, ·)).toList ++ given rest := by
  cases h : held.origin <;> simp [given, h]

theorem given_append (ledger more : Ledger) :
    given (ledger ++ more) = given ledger ++ given more := by
  simp [given]

theorem given_alter (name : String) (change : Option String → String) (ledger : Ledger) :
    given (Keyed.alter name (Traced.rewrite change) ledger) = given ledger := by
  induction ledger with
  | nil => rfl
  | cons entry rest ih =>
    obtain ⟨other, held⟩ := entry
    rw [Keyed.alter]
    split
    · rw [given_cons, given_cons]
      rfl
    · rw [given_cons, given_cons, ih]

theorem given_writeAll (writes : List (String × (Option String → String))) (ledger : Ledger) :
    given (writeAll (traceAll writes) ledger) = given ledger := by
  induction writes generalizing ledger with
  | nil => rfl
  | cons write writes ih =>
    have hall := ih (Keyed.alter write.1 (Traced.rewrite write.2) ledger)
    rw [given_alter] at hall
    exact hall

theorem given_ofFilter (added : List (String × String)) :
    given (Keyed.mapValues Traced.ofFilter added) = added := by
  induction added with
  | nil => rfl
  | cons pair added ih =>
    obtain ⟨name, value⟩ := pair
    rw [Keyed.mapValues_cons, given_cons, ih]
    rfl

theorem params_step (ledger : Ledger) (call : Call access) :
    (ledger.step call).params = writeAll call.writes ledger.params ++ call.added := by
  have hadded : Keyed.mapValues Traced.value (Keyed.mapValues Traced.ofFilter call.added) =
      call.added := Keyed.mapValues_cancel (fun _ => rfl) call.added
  rw [params, step, Keyed.mapValues_append, hadded, mapValues_writeAll]
  rfl

theorem given_step (ledger : Ledger) (call : Call access) :
    (ledger.step call).given = ledger.given ++ call.added := by
  rw [step, given_append, given_writeAll, given_ofFilter]

theorem params_run (calls : List (Call access)) {draft : Draft} {ledger : Ledger}
    (h : ledger.params = draft.params) :
    (ledger.run calls).params = (draft.applyAll calls).params := by
  induction calls generalizing draft ledger with
  | nil => exact h
  | cons call calls ih =>
    have hstep : (ledger.step call).params = (draft.apply call).params := by
      rw [params_step, Draft.params_apply, h]
    exact ih hstep

theorem given_run (ledger : Ledger) (calls : List (Call access)) :
    (ledger.run calls).given = ledger.given ++ calls.flatMap Call.added := by
  induction calls generalizing ledger with
  | nil => simp [run]
  | cons call calls ih =>
    have hall := ih (ledger.step call)
    rw [given_step] at hall
    rw [List.flatMap_cons, ← List.append_assoc]
    exact hall

/-! ### What stands under one name -/

theorem named_writeAll_cons (writes : List (String × (Option String → String))) {name : String}
    {ledger : Ledger} {first : Traced} {rest : List Traced}
    (h : Keyed.named name ledger = first :: rest) :
    Keyed.named name (writeAll (traceAll writes) ledger) =
      ⟨writes.foldl (fun value write => if write.1 = name then write.2 (some value) else value)
        first.value, first.origin⟩ :: rest := by
  induction writes generalizing ledger first with
  | nil => exact h
  | cons write writes ih =>
    have halter := Keyed.named_alter write.1 name (Traced.rewrite write.2) ledger
    rw [h] at halter
    by_cases hname : write.1 = name
    · rw [if_pos hname] at halter
      rw [List.foldl_cons, if_pos hname]
      exact ih halter
    · rw [if_neg hname] at halter
      rw [List.foldl_cons, if_neg hname]
      exact ih halter

/-- Under a new name settings put one parameter at most, and it comes from no filter. -/
theorem named_writeAll_nil (writes : List (String × (Option String → String))) {name : String}
    {ledger : Ledger} (h : Keyed.named name ledger = []) :
    Keyed.named name (writeAll (traceAll writes) ledger) = [] ∨
      ∃ value, Keyed.named name (writeAll (traceAll writes) ledger) = [⟨value, none⟩] := by
  induction writes generalizing ledger with
  | nil => exact .inl h
  | cons write writes ih =>
    have halter := Keyed.named_alter write.1 name (Traced.rewrite write.2) ledger
    rw [h] at halter
    by_cases hname : write.1 = name
    · rw [if_pos hname] at halter
      exact .inr ⟨_, named_writeAll_cons writes halter⟩
    · rw [if_neg hname] at halter
      exact ih halter

theorem named_step (name : String) (ledger : Ledger) (call : Call access) :
    Keyed.named name (ledger.step call) =
      Keyed.named name (writeAll (traceAll call.writes) ledger) ++
        (Keyed.named name call.added).map Traced.ofFilter := by
  rw [step, Keyed.named_append, Keyed.named_mapValues]

theorem named_step_cons {name : String} {ledger : Ledger} {first : Traced} {rest : List Traced}
    (h : Keyed.named name ledger = first :: rest) (call : Call access) :
    Keyed.named name (ledger.step call) =
      ⟨call.settle name first.value, first.origin⟩ ::
        (rest ++ (Keyed.named name call.added).map Traced.ofFilter) := by
  rw [named_step, named_writeAll_cons call.writes h]
  rfl

theorem faithful_step {ledger : Ledger} (h : ledger.Faithful) (call : Call access) :
    (ledger.step call).Faithful := by
  intro name held hheld
  have hadded : ∀ held ∈ (Keyed.named name call.added).map Traced.ofFilter,
      held.origin = some held.value := by
    intro held hheld
    obtain ⟨value, -, rfl⟩ := List.mem_map.mp hheld
    rfl
  cases hnamed : Keyed.named name ledger with
  | cons first rest =>
    rw [named_step_cons hnamed, List.tail_cons, List.mem_append] at hheld
    rcases hheld with hrest | hnew
    · exact h name held (by rw [hnamed]; exact hrest)
    · exact hadded held hnew
  | nil =>
    rw [named_step] at hheld
    rcases named_writeAll_nil call.writes hnamed with hnil | ⟨value, hone⟩
    · rw [hnil, List.nil_append] at hheld
      exact hadded held (List.mem_of_mem_tail hheld)
    · rw [hone] at hheld
      exact hadded held hheld

end Ledger

theorem Call.writes_or_added (call : Call access) : call.writes = [] ∨ call.added = [] := by
  cases call with
  | filter => exact .inl rfl
  | _ => exact .inr rfl

/-- One of the calls adds the parameter, as the first with its name, and the others come after. -/
def Draft.Opens (draft : Draft) (calls : List (Call access)) (name value : String)
    (after : List (Call access)) : Prop :=
  ∃ before call, calls = before ++ call :: after ∧ Keyed.get? name call.added = some value ∧
    name ∉ Keyed.keys (draft.applyAll before).params

theorem Draft.opens_cons {draft : Draft} {call : Call access} {calls after : List (Call access)}
    {name value : String} :
    draft.Opens (call :: calls) name value after ↔
      (after = calls ∧ Keyed.get? name call.added = some value ∧
        name ∉ Keyed.keys draft.params) ∨ (draft.apply call).Opens calls name value after := by
  constructor
  · rintro ⟨before, found, hcalls, hadded, hnew⟩
    cases before with
    | nil =>
      cases hcalls
      exact .inl ⟨rfl, hadded, hnew⟩
    | cons first before =>
      cases hcalls
      exact .inr ⟨before, found, rfl, hadded, hnew⟩
  · rintro (⟨rfl, hadded, hnew⟩ | ⟨before, found, rfl, hadded, hnew⟩)
    · exact ⟨[], call, rfl, hadded, hnew⟩
    · exact ⟨call :: before, found, rfl, hadded, hnew⟩

namespace Ledger

/-- The first parameter with each name will hold what a filter gave it when the calls are done. -/
def Settles (ledger : Ledger) (calls : List (Call access)) : Prop :=
  ∀ name held, Keyed.get? name ledger = some held →
    ∀ given ∈ held.origin, settleAll name held.value calls = given

/-- A call settles as before what was there, and opens the names that are new. -/
theorem settles_step {draft : Draft} {ledger : Ledger} (hparams : ledger.params = draft.params)
    (call : Call access) (calls : List (Call access)) :
    (ledger.step call).Settles calls ↔
      ledger.Settles (call :: calls) ∧
        ∀ name value, Keyed.get? name call.added = some value →
          name ∉ Keyed.keys draft.params → settleAll name value calls = value := by
  have hkeys : ∀ name, Keyed.named name ledger = [] ↔ name ∉ Keyed.keys draft.params := by
    intro name
    rw [← hparams, params, Keyed.keys_mapValues, Keyed.named_eq_nil_iff]
  constructor
  · intro hsettles
    refine ⟨?_, ?_⟩
    · intro name held hheld
      rw [Keyed.get?_eq_head?] at hheld
      obtain ⟨rest, hnamed⟩ := List.head?_eq_some_iff.mp hheld
      refine hsettles name ⟨call.settle name held.value, held.origin⟩ ?_
      rw [Keyed.get?_eq_head?, named_step_cons hnamed, List.head?_cons]
    · intro name value hadded hnew
      have hwrites : call.writes = [] := by
        rcases call.writes_or_added with hwrites | hnone
        · exact hwrites
        · rw [hnone] at hadded
          cases hadded
      refine hsettles name (Traced.ofFilter value) ?_ value rfl
      rw [Keyed.get?_eq_head?] at hadded ⊢
      rw [named_step, hwrites]
      show ((Keyed.named name ledger) ++ _).head? = _
      rw [(hkeys name).mpr hnew, List.nil_append, List.head?_map, hadded]
      rfl
  · rintro ⟨hsettles, hopens⟩ name held hheld given hgiven
    cases hnamed : Keyed.named name ledger with
    | cons first rest =>
      rw [Keyed.get?_eq_head?, named_step_cons hnamed, List.head?_cons] at hheld
      cases hheld
      exact hsettles name first (by rw [Keyed.get?_eq_head?, hnamed]; rfl) given hgiven
    | nil =>
      rw [Keyed.get?_eq_head?, named_step] at hheld
      rcases named_writeAll_nil call.writes hnamed with hnil | ⟨value, hone⟩
      · rw [hnil, List.nil_append, List.head?_map, Option.map_eq_some_iff] at hheld
        obtain ⟨value, hvalue, rfl⟩ := hheld
        rw [← Keyed.get?_eq_head?] at hvalue
        have hsettled := hopens name value hvalue ((hkeys name).mp hnamed)
        exact hsettled.trans (Option.some.inj hgiven)
      · rw [hone] at hheld
        cases hheld
        cases hgiven

/-! ### A whole run -/

theorem faithful_run (calls : List (Call access)) {ledger : Ledger} (h : ledger.Faithful) :
    (ledger.run calls).Faithful := by
  induction calls generalizing ledger with
  | nil => exact h
  | cons call calls ih => exact ih (faithful_step h call)

theorem kept_iff_settles {ledger : Ledger} (h : ledger.Faithful) :
    (∀ entry ∈ ledger, entry.2.Kept) ↔ ledger.Settles ([] : List (Call access)) := by
  constructor
  · intro hkept name held hheld
    rw [Keyed.get?_eq_head?] at hheld
    exact hkept (name, held) (Keyed.mem_named.mp (List.mem_of_head? hheld))
  · rintro hsettles ⟨name, held⟩ hentry
    have hmem : held ∈ Keyed.named name ledger := Keyed.mem_named.mpr hentry
    have htail := h name
    cases hnamed : Keyed.named name ledger with
    | nil =>
      rw [hnamed] at hmem
      cases hmem
    | cons first rest =>
      rw [hnamed] at hmem htail
      rcases List.mem_cons.mp hmem with rfl | hrest
      · exact hsettles name held (by rw [Keyed.get?_eq_head?, hnamed]; rfl)
      · intro given hgiven
        rw [htail held hrest] at hgiven
        exact Option.some.inj hgiven

/-- After some calls every filter still holds exactly if the calls settle what was there, and what
each of them opens is settled by those after it. -/
theorem kept_run_iff (calls : List (Call access)) {draft : Draft} {ledger : Ledger}
    (hparams : ledger.params = draft.params) (hfaithful : ledger.Faithful) :
    (∀ entry ∈ ledger.run calls, entry.2.Kept) ↔
      ledger.Settles calls ∧ ∀ name value after, draft.Opens calls name value after →
        settleAll name value after = value := by
  induction calls generalizing draft ledger with
  | nil =>
    have hnone : ∀ name value after, ¬draft.Opens ([] : List (Call access)) name value after := by
      rintro name value after ⟨before, call, hcalls, -⟩
      simp at hcalls
    refine (kept_iff_settles hfaithful).trans ⟨fun h => ⟨h, ?_⟩, fun h => h.1⟩
    intro name value after hopens
    exact absurd hopens (hnone name value after)
  | cons call calls ih =>
    have hstep : (ledger.step call).params = (draft.apply call).params := by
      rw [params_step, Draft.params_apply, hparams]
    have hall := ih hstep (faithful_step hfaithful call)
    rw [settles_step hparams] at hall
    refine hall.trans ?_
    constructor
    · rintro ⟨⟨hsettles, hnew⟩, hlater⟩
      refine ⟨hsettles, fun name value after hopens => ?_⟩
      rcases Draft.opens_cons.mp hopens with ⟨rfl, hadded, hfirst⟩ | hopens
      · exact hnew name value hadded hfirst
      · exact hlater name value after hopens
    · rintro ⟨hsettles, hopens⟩
      refine ⟨⟨hsettles, fun name value hadded hfirst => ?_⟩, fun name value after hlater => ?_⟩
      · exact hopens name value calls (Draft.opens_cons.mpr (.inl ⟨rfl, hadded, hfirst⟩))
      · exact hopens name value after (Draft.opens_cons.mpr (.inr hlater))

/-! ### Parameters given and parameters sent -/

theorem named_given (name : String) (ledger : Ledger) :
    Keyed.named name ledger.given = (Keyed.named name ledger).filterMap Traced.origin := by
  induction ledger with
  | nil => rfl
  | cons entry rest ih =>
    obtain ⟨other, held⟩ := entry
    rw [given_cons, Keyed.named_append, ih, Keyed.named_cons]
    by_cases h : other = name
    · cases horigin : held.origin <;> simp [h, horigin]
    · cases held.origin <;> simp [h]

/-- Under one name: if what filters gave is found among what is held, nothing was written over. -/
theorem kept_of_sublist {found : List Traced}
    (hfaithful : ∀ held ∈ found.tail, held.origin = some held.value)
    (h : (found.filterMap Traced.origin).Sublist (found.map Traced.value)) :
    ∀ held ∈ found, held.Kept := by
  cases found with
  | nil => simp
  | cons first rest =>
    have hrest : rest.filterMap Traced.origin = rest.map Traced.value :=
      List.filterMap_eq_map_iff_forall_eq_some.mpr hfaithful
    intro held hheld given hgiven
    rcases List.mem_cons.mp hheld with rfl | hheld
    · -- as many values were given as are held, so they are the same in order
      have horigin : held.origin = some given := hgiven
      rw [List.filterMap_cons, horigin, hrest, List.map_cons] at h
      have hsame := h.eq_of_length (by simp)
      exact (List.cons.inj hsame).1.symm
    · rw [hfaithful held hheld] at hgiven
      exact Option.some.inj hgiven

theorem given_sublist_params {ledger : Ledger} (h : ∀ entry ∈ ledger, entry.2.Kept) :
    ledger.given.Sublist ledger.params := by
  induction ledger with
  | nil => exact List.Sublist.refl []
  | cons entry rest ih =>
    obtain ⟨name, held⟩ := entry
    have hrest := ih fun entry hentry => h entry (List.mem_cons_of_mem _ hentry)
    have hkept : held.Kept := h (name, held) (by simp)
    rw [given_cons, params, Keyed.mapValues_cons]
    cases horigin : held.origin with
    | none => exact hrest.cons (name, held.value)
    | some given =>
      rw [← hkept given horigin]
      exact hrest.cons_cons (name, held.value)

theorem given_sublist_iff {ledger : Ledger} (h : ledger.Faithful) :
    ledger.given.Sublist ledger.params ↔ ∀ entry ∈ ledger, entry.2.Kept := by
  refine ⟨?_, given_sublist_params⟩
  rintro hsublist ⟨name, held⟩ hentry
  have hnamed := Keyed.named_sublist name hsublist
  rw [named_given, params, Keyed.named_mapValues] at hnamed
  exact kept_of_sublist (h name) hnamed held (Keyed.mem_named.mpr hentry)

end Ledger

/-! ### Requests from their start -/

/-- Parameters of which none comes from a filter. -/
def Ledger.ofSettings (params : List (String × String)) : Ledger :=
  Keyed.mapValues (fun value => ⟨value, none⟩) params

theorem Ledger.params_ofSettings (params : List (String × String)) :
    (ofSettings params).params = params :=
  Keyed.mapValues_cancel (fun _ => rfl) params

theorem Ledger.given_ofSettings (params : List (String × String)) :
    (ofSettings params).given = [] := by
  induction params with
  | nil => rfl
  | cons pair rest ih =>
    obtain ⟨name, value⟩ := pair
    rw [ofSettings, Keyed.mapValues_cons, given_cons]
    exact ih

theorem Ledger.settles_ofSettings (params : List (String × String)) (calls : List (Call access)) :
    (ofSettings params).Settles calls := by
  intro name held hheld given hgiven
  rw [Keyed.get?_eq_head?, ofSettings, Keyed.named_mapValues, List.head?_map,
    Option.map_eq_some_iff] at hheld
  obtain ⟨value, -, rfl⟩ := hheld
  cases hgiven

theorem Ledger.faithful_ofSettings {params : List (String × String)}
    (h : (Keyed.keys params).Nodup) : (ofSettings params).Faithful := by
  intro name held hheld
  rw [ofSettings, Keyed.named_mapValues, ← List.map_tail, Keyed.named_tail h name] at hheld
  cases hheld

theorem Draft.params_setRows (draft : Draft) (values : Json) :
    (draft.setRows values).params = draft.params ∨
      ∃ columns, (draft.setRows values).params = Keyed.insert "columns" columns draft.params := by
  unfold setRows
  split
  · exact .inl rfl
  · split
    · exact .inl rfl
    · exact .inr ⟨_, rfl⟩
  · exact .inl rfl

/-- No operation begins with two parameters of one name. -/
theorem Draft.nodup_start (client : Client) (relation : String) (operation : Operation access) :
    (Keyed.keys (start client relation operation).params).Nodup := by
  have hrows : ∀ (draft : Draft) (values : Json), "columns" ∉ Keyed.keys draft.params →
      (Keyed.keys draft.params).Nodup → (Keyed.keys (draft.setRows values).params).Nodup := by
    intro draft values hnew hnodup
    rcases params_setRows draft values with hsame | ⟨columns, hinsert⟩
    · rw [hsame]
      exact hnodup
    · rw [hinsert, Keyed.keys_insert, if_neg hnew, List.nodup_append]
      refine ⟨hnodup, by simp, ?_⟩
      rintro name hname _ hcolumns rfl
      rw [List.mem_singleton.mp hcolumns] at hname
      exact hnew hname
  cases operation with
  | select columns head count =>
    show (["select"] : List String).Nodup
    simp
  | insert values count defaultToNull =>
    refine hrows _ values ?_ ?_
    · exact List.not_mem_nil
    · exact List.nodup_nil
  | upsert values onConflict ignoreDuplicates count defaultToNull =>
    cases onConflict with
    | none =>
      refine hrows _ values ?_ ?_
      · exact List.not_mem_nil
      · exact List.nodup_nil
    | some target =>
      refine hrows _ values ?_ ?_
      · show "columns" ∉ ["on_conflict"]
        decide
      · show (["on_conflict"] : List String).Nodup
        simp
  | update values count => exact List.nodup_nil
  | delete count => exact List.nodup_nil

theorem Filter.value_of_parameter {column operator right name value : String}
    (h : (name, value) = parameter column operator right) :
    ∃ c ∈ value.toList, c.isDigit = false := by
  obtain ⟨rfl, rfl⟩ := Prod.mk.inj h
  exact ⟨'.', by simp, by decide⟩

/-- The value of a filter is no number. -/
theorem Filter.value_of_mem {condition : Filter} {name value : String}
    (h : (name, value) ∈ condition.parameters) :
    ∃ c ∈ value.toList, c.isDigit = false := by
  cases condition with
  | matchAll pairs =>
    obtain ⟨⟨column, operand⟩, -, hpair⟩ := List.mem_map.mp h
    exact value_of_parameter hpair.symm
  | or filters table =>
    obtain ⟨rfl, rfl⟩ := Prod.mk.inj (List.mem_singleton.mp h)
    exact ⟨'(', by simp, by decide⟩
  | _ => exact value_of_parameter (List.mem_singleton.mp h)

theorem Draft.value_of_opens {draft : Draft} {calls after : List (Call access)}
    {name value : String} (h : draft.Opens calls name value after) :
    ∃ c ∈ value.toList, c.isDigit = false := by
  obtain ⟨before, call, -, hadded, -⟩ := h
  rw [Keyed.get?_eq_head?] at hadded
  have hmem := Keyed.mem_named.mp (List.mem_of_head? hadded)
  cases call with
  | filter condition => exact Filter.value_of_mem hmem
  | _ => cases hmem

/-- **Which filters reach the gateway.**  Of a request that was built, the parameters behind those
of its base hold every filter unchanged and in order exactly if no call writes a setting over what
an earlier filter was the first to name. -/
theorem Draft.filters_sublist_iff {client : Client} {relation : String}
    {operation : Operation access} {calls : List (Call access)} {request : Request}
    (h : ((start client relation operation).applyAll calls).build = .ok request) :
    ∃ own, request.params = client.base.pairs ++ own ∧
      ((calls.flatMap Call.added).Sublist own ↔
        ∀ name value after, (start client relation operation).Opens calls name value after →
          Untouched name value after) := by
  have hparams := params_of_build h
  rw [client_applyAll, client_start] at hparams
  refine ⟨_, hparams, ?_⟩
  have hbegin := Ledger.params_ofSettings (start client relation operation).params
  have hfaithful := Ledger.faithful_ofSettings (nodup_start client relation operation)
  have hrun := Ledger.params_run calls hbegin
  have hgiven := Ledger.given_run (.ofSettings (start client relation operation).params) calls
  rw [Ledger.given_ofSettings, List.nil_append] at hgiven
  rw [← hrun, ← hgiven, Ledger.given_sublist_iff (Ledger.faithful_run calls hfaithful),
    Ledger.kept_run_iff calls hbegin hfaithful]
  constructor
  · rintro ⟨-, hsettled⟩ name value after hopens
    obtain ⟨c, hc, hdigit⟩ := value_of_opens hopens
    exact (settleAll_eq_iff hc hdigit name after).mp (hsettled name value after hopens)
  · intro huntouched
    refine ⟨Ledger.settles_ofSettings _ calls, fun name value after hopens => ?_⟩
    obtain ⟨c, hc, hdigit⟩ := value_of_opens hopens
    exact (settleAll_eq_iff hc hdigit name after).mpr (huntouched name value after hopens)

/-- A gateway on the machine itself. -/
def Client.localhost : Client :=
  ⟨⟨"http", some ⟨"", "", "localhost", some 3000⟩, false, [""], none, none⟩, none, []⟩

/-- Rows whose column `limit` is five are to be deleted, ten of them at most: the ten takes the
place of the filter, and nothing says any more which rows. -/
theorem Draft.filter_lost_to_limit :
    ∃ request, ((start .localhost "users" (.delete none)).applyAll
        ([.filter (.compare .equal "limit" (.whole 5)), .limit 10 none] :
          List (Call .write))).build = .ok request ∧
      request.params = [("limit", "10")] ∧ ¬[("limit", "eq.5")].Sublist request.params := by
  have hbuild : ((start .localhost "users" (.delete none)).applyAll
      ([.filter (.compare .equal "limit" (.whole 5)), .limit 10 none] :
        List (Call .write))).build = .ok ⟨_, _, _, _, _⟩ := rfl
  obtain ⟨own, hparams, hiff⟩ := filters_sublist_iff hbuild
  refine ⟨_, hbuild, by rw [params_of_build hbuild]; rfl, ?_⟩
  rw [hparams]
  intro hsublist
  have huntouched := hiff.mp hsublist "limit" "eq.5" [.limit 10 none]
    ⟨[], .filter (.compare .equal "limit" (.whole 5)), rfl, by decide, by decide⟩
  have hsome := huntouched.unset (.limit 10 none) (by simp)
    (by simp [Call.settings, Call.writes, onTable])
  cases hsome

end GatewayQuery
