/-
Order, limit and offset, table by table.

All tables of a request write their settings into one list of parameters, and the table is
only told by what stands before a dot in the name.  Names of different settings end
differently, and those of one setting are the same for one table only, so what stands under
a name comes from the calls on that setting and that table alone, as long as no filter uses
the name.  There is then never more than one parameter with it: the first call adds it and
later ones write into it.

What they write is folded over the calls once, for any name.  An order is folded to its terms
with commas between them, a limit and an offset to the one that was given last.
-/
import GatewayQuery.Proofs.Request.Filters

namespace GatewayQuery

variable {access : Access}

/-- What a request says about the rows of one table: their order, how many of them, and how many
are left out before. -/
structure Paging where
  order : Option String
  limit : Option Nat
  offset : Option Nat

namespace Call

/-- The term that a call adds to the order of a table. -/
def orderTerm? (table : Option String) : Call access → Option String
  | .order column ascending nullsFirst scope =>
    if scope = table then some (Draft.orderTerm column ascending nullsFirst) else none
  | _ => none

/-- How many rows of a table a call asks for. -/
def limit? (table : Option String) : Call access → Option Nat
  | .limit count scope => if scope = table then some count else none
  | .range first last scope => if scope = table then some (last - first + 1) else none
  | _ => none

/-- The row of a table that a call begins with. -/
def offset? (table : Option String) : Call access → Option Nat
  | .range first _ scope => if scope = table then some first else none
  | _ => none

end Call

namespace Paging

/-- What some calls say about a table: all terms of its order, the last limit, the last offset. -/
def ofCalls (table : Option String) (calls : List (Call access)) : Paging where
  order :=
    match calls.filterMap (Call.orderTerm? table) with
    | [] => none
    | terms => some (",".intercalate terms)
  limit := (calls.filterMap (Call.limit? table)).getLast?
  offset := (calls.filterMap (Call.offset? table)).getLast?

/-- The names under which a table is spoken of. -/
def names (table : Option String) : List String :=
  [onTable "order" table, onTable "limit" table, onTable "offset" table]

/-- The parameters say this of a table, each thing once or, if it is not said, never. -/
structure Shown (paging : Paging) (table : Option String) (params : List (String × String)) :
    Prop where
  order : Keyed.named (onTable "order" table) params = paging.order.toList
  limit : Keyed.named (onTable "limit" table) params = (paging.limit.map toString).toList
  offset : Keyed.named (onTable "offset" table) params = (paging.offset.map toString).toList

end Paging

/-! ### What stands under one name -/

/-- A value after some changes, of which the first may have to make it. -/
def changeAll {α : Type} (held : Option α) (changes : List (Option α → α)) : Option α :=
  changes.foldl (fun held change => some (change held)) held

theorem named_writeAll {α : Type} (name : String) (writes : List (String × (Option α → α)))
    (entries : List (String × α)) :
    Keyed.named name (writeAll writes entries) =
      (changeAll (Keyed.named name entries).head? (Keyed.named name writes)).toList ++
        (Keyed.named name entries).tail := by
  induction writes generalizing entries with
  | nil =>
    show Keyed.named name entries = _
    cases Keyed.named name entries <;> rfl
  | cons write writes ih =>
    obtain ⟨other, change⟩ := write
    have hstep : writeAll ((other, change) :: writes) entries =
        writeAll writes (Keyed.alter other change entries) := rfl
    rw [hstep, ih, Keyed.named_alter, Keyed.named_cons]
    by_cases h : other = name
    · rw [if_pos h, if_pos h]
      rfl
    · rw [if_neg h, if_neg h]

/-- **One name after some calls.**  If no call adds a parameter with the name, what stands under it
is what the writes of the calls made of it. -/
theorem Draft.named_applyAll {name : String} {draft : Draft} {held : Option String}
    (calls : List (Call access)) (hadded : ∀ call ∈ calls, name ∉ Keyed.keys call.added)
    (hheld : Keyed.named name draft.params = held.toList) :
    Keyed.named name (draft.applyAll calls).params =
      (changeAll held (calls.flatMap fun call => Keyed.named name call.writes)).toList := by
  induction calls generalizing draft held with
  | nil => exact hheld
  | cons call calls ih =>
    have hnone : Keyed.named name call.added = [] :=
      Keyed.named_eq_nil_iff.mpr (hadded call List.mem_cons_self)
    have hstep : Keyed.named name (draft.apply call).params =
        (changeAll held (Keyed.named name call.writes)).toList := by
      rw [params_apply, Keyed.named_append, hnone, List.append_nil, named_writeAll, hheld]
      cases held <;> simp
    have hall := ih (fun call hcall => hadded call (List.mem_cons_of_mem _ hcall)) hstep
    rw [List.flatMap_cons, changeAll, List.foldl_append]
    exact hall

/-! ### Names of settings of tables -/

theorem onTable_inj {setting : String} {table scope : Option String} :
    onTable setting table = onTable setting scope ↔ table = scope := by
  have hlonger : ∀ table : String, table ++ "." ++ setting ≠ setting := by
    intro table hsame
    have hlength := congrArg String.length hsame
    rw [String.length_append, String.length_append] at hlength
    have hdot : ".".length = 1 := rfl
    omega
  cases table with
  | none =>
    cases scope with
    | none => simp
    | some scope => simpa [onTable] using (hlonger scope).symm
  | some table =>
    cases scope with
    | none => simp [onTable, hlonger table]
    | some scope => simp [onTable]

/-- Settings that are told apart by their ends have different names on any two tables. -/
theorem onTable_eq_iff {setting other : String} (h : 2 ≤ setting.toList.length)
    (hother : 2 ≤ other.toList.length) (hending : ending setting = ending other → setting = other)
    {table scope : Option String} :
    onTable setting table = onTable other scope ↔ setting = other ∧ table = scope := by
  constructor
  · intro hsame
    have hends := congrArg ending hsame
    rw [ending_onTable h, ending_onTable hother] at hends
    obtain rfl := hending hends
    exact ⟨rfl, onTable_inj.mp hsame⟩
  · intro hboth
    rw [hboth.1, hboth.2]

theorem ne_onTable {name setting : String} (h : 2 ≤ setting.toList.length)
    (hending : ending name ≠ ending setting) (table : Option String) :
    name ≠ onTable setting table := by
  intro hsame
  have hends := congrArg ending hsame
  rw [ending_onTable h] at hends
  exact hending hends

/-! ### What one call writes -/

namespace Call

theorem named_writes_order (table : Option String) (call : Call access) :
    Keyed.named (onTable "order" table) call.writes =
      ((call.orderTerm? table).map extendOrder).toList := by
  cases call with
  | order column ascending nullsFirst scope =>
    by_cases h : scope = table <;> simp [writes, orderTerm?, onTable_inj, h]
  | limit count scope => simp (disch := decide) [writes, orderTerm?, onTable_eq_iff]
  | range first last scope =>
    by_cases hrange : last < first <;>
      simp (disch := decide) [writes, orderTerm?, onTable_eq_iff, hrange]
  | select columns => simp (disch := decide) [writes, orderTerm?, ne_onTable]
  | _ => rfl

theorem writes_range {first last : Nat} (h : first ≤ last) (scope : Option String) :
    (Call.range first last scope : Call access).writes =
      [(onTable "offset" scope, fun _ => toString first),
        (onTable "limit" scope, fun _ => toString (last - first + 1))] := by
  have hrange : ¬last < first := Nat.not_lt.mpr h
  simp [writes, hrange]

theorem named_writes_limit {table : Option String} {call : Call access}
    (h : ∀ first last, call = .range first last table → first ≤ last) :
    Keyed.named (onTable "limit" table) call.writes =
      ((call.limit? table).map fun count _ => toString count).toList := by
  cases call with
  | order column ascending nullsFirst scope =>
    simp (disch := decide) [writes, limit?, onTable_eq_iff]
  | limit count scope =>
    by_cases hscope : scope = table <;> simp [writes, limit?, onTable_inj, hscope]
  | range first last scope =>
    by_cases hscope : scope = table
    · subst hscope
      simp (disch := decide) [writes_range (h first last rfl), limit?, onTable_eq_iff]
    · by_cases hrange : last < first <;>
        simp (disch := decide) [writes, limit?, onTable_eq_iff, hrange, hscope]
  | select columns => simp (disch := decide) [writes, limit?, ne_onTable]
  | _ => rfl

theorem named_writes_offset {table : Option String} {call : Call access}
    (h : ∀ first last, call = .range first last table → first ≤ last) :
    Keyed.named (onTable "offset" table) call.writes =
      ((call.offset? table).map fun first _ => toString first).toList := by
  cases call with
  | order column ascending nullsFirst scope =>
    simp (disch := decide) [writes, offset?, onTable_eq_iff]
  | limit count scope => simp (disch := decide) [writes, offset?, onTable_eq_iff]
  | range first last scope =>
    by_cases hscope : scope = table
    · subst hscope
      simp (disch := decide) [writes_range (h first last rfl), offset?, onTable_eq_iff]
    · by_cases hrange : last < first <;>
        simp (disch := decide) [writes, offset?, onTable_eq_iff, hrange, hscope]
  | select columns => simp (disch := decide) [writes, offset?, ne_onTable]
  | _ => rfl

end Call

/-! ### What all calls write -/

/-- Calls that write one value each, or none, write these values in order. -/
theorem flatMap_eq_map_filterMap {α β γ : Type} {entries : List α} {written : α → List γ}
    {f : α → Option β} {g : β → γ}
    (h : ∀ entry ∈ entries, written entry = ((f entry).map g).toList) :
    entries.flatMap written = (entries.filterMap f).map g := by
  induction entries with
  | nil => rfl
  | cons entry entries ih =>
    rw [List.flatMap_cons, h entry List.mem_cons_self,
      ih fun entry hentry => h entry (List.mem_cons_of_mem _ hentry), List.filterMap_cons]
    cases f entry <;> rfl

/-- Terms that are added to an order come behind it with commas between them. -/
theorem changeAll_extendOrder (held : String) (terms : List String) :
    changeAll (some held) (terms.map Call.extendOrder) =
      some (",".intercalate (held :: terms)) := by
  induction terms generalizing held with
  | nil => simp [changeAll]
  | cons term terms ih =>
    calc changeAll (some held) ((term :: terms).map Call.extendOrder)
        = changeAll (some (held ++ "," ++ term)) (terms.map Call.extendOrder) := rfl
      _ = some (",".intercalate ((held ++ "," ++ term) :: terms)) := ih _
      _ = some (",".intercalate (held :: term :: terms)) := by
        rw [String.intercalate_cons_append, String.intercalate_cons_cons]

/-- Of values that replace each other the last one stays. -/
theorem changeAll_const {α β : Type} (f : α → β) (held : Option β) (values : List α) :
    changeAll held (values.map fun value _ => f value) = (values.getLast?.map f).or held := by
  induction values generalizing held with
  | nil => rfl
  | cons value values ih =>
    have hstep : changeAll held ((value :: values).map fun value _ => f value) =
        changeAll (some (f value)) (values.map fun value _ => f value) := rfl
    rw [hstep, ih, List.getLast?_cons]
    cases values.getLast? <;> rfl

/-! ### Requests from their start -/

/-- The columns that a filter is about.  A disjunction that is spelled out is about no column. -/
def Filter.columns : Filter → List String
  | .compare _ column _ | .like _ column _ | .likeEach _ _ column _ | .is column _
  | .among column _ | .contain _ column _ | .range _ column _ | .textSearch _ _ column _
  | .not column _ _ | .raw column _ _ => [column]
  | .matchAll pairs => pairs.map (·.1)
  | .or _ _ => []

theorem Filter.mem_keys_parameters {condition : Filter} {name : String}
    (h : name ∈ Keyed.keys condition.parameters) :
    name ∈ condition.columns ∨ ∃ table, name = onTable "or" table := by
  cases condition with
  | matchAll pairs =>
    refine .inl ?_
    simpa [parameters, parameter, Keyed.keys, columns, Function.comp_def] using h
  | or filters table => exact .inr ⟨table, List.mem_singleton.mp h⟩
  | _ => exact .inl h

/-- Where no filter is about a column with the name of a setting, no filter adds one. -/
theorem Paging.not_mem_added {table : Option String} {name : String} (hname : name ∈ names table)
    {calls : List (Call access)}
    (hcolumns : ∀ condition, .filter condition ∈ calls →
      ∀ column ∈ condition.columns, column ∉ names table) :
    ∀ call ∈ calls, name ∉ Keyed.keys call.added := by
  intro call hcall hadded
  cases call with
  | filter condition =>
    rcases Filter.mem_keys_parameters hadded with hcolumn | ⟨scope, rfl⟩
    · exact hcolumns condition hcall name hcolumn hname
    · simp (disch := decide) [names, onTable_eq_iff] at hname
  | _ => cases hadded

theorem Draft.mem_keys_start {client : Client} {relation : String} {operation : Operation access}
    {name : String} (h : name ∈ Keyed.keys (start client relation operation).params) :
    name ∈ ["select", "columns", "on_conflict"] := by
  have hrows : ∀ (draft : Draft) (values : Json),
      name ∈ Keyed.keys (draft.setRows values).params →
        name ∈ Keyed.keys draft.params ∨ name = "columns" := by
    intro draft values hname
    rcases params_setRows draft values with hsame | ⟨columns, hinsert⟩
    · rw [hsame] at hname
      exact .inl hname
    · rw [hinsert, Keyed.keys_insert] at hname
      split at hname
      · exact .inl hname
      · simpa using hname
  cases operation with
  | select columns head count =>
    have hname : name ∈ ["select"] := h
    rw [List.mem_singleton.mp hname]
    simp
  | insert values count defaultToNull =>
    rcases hrows _ values h with hnone | rfl
    · cases hnone
    · simp
  | upsert values onConflict ignoreDuplicates count defaultToNull =>
    rcases hrows _ values h with hname | rfl
    · cases onConflict with
      | none => cases hname
      | some target =>
        have hconflict : name ∈ ["on_conflict"] := hname
        rw [List.mem_singleton.mp hconflict]
        simp
    · simp
  | update values count => cases h
  | delete count => cases h

/-- No operation begins with a setting of a table. -/
theorem Draft.named_start (client : Client) (relation : String) (operation : Operation access)
    {table : Option String} {name : String} (hname : name ∈ Paging.names table) :
    Keyed.named name (start client relation operation).params = [] := by
  rw [Keyed.named_eq_nil_iff]
  intro hstart
  have hmem := mem_keys_start hstart
  simp only [List.mem_cons, List.not_mem_nil, or_false] at hmem
  rcases hmem with rfl | rfl | rfl <;> simp (disch := decide) [Paging.names, ne_onTable] at hname

section Runs

variable {client : Client} {relation : String} {operation : Operation access}
  {calls : List (Call access)} {table : Option String}

theorem Draft.named_run {name : String} (hname : name ∈ Paging.names table)
    (hcolumns : ∀ condition, .filter condition ∈ calls →
      ∀ column ∈ condition.columns, column ∉ Paging.names table) :
    Keyed.named name ((start client relation operation).applyAll calls).params =
      (changeAll none (calls.flatMap fun call => Keyed.named name call.writes)).toList :=
  named_applyAll calls (Paging.not_mem_added hname hcolumns)
    (named_start client relation operation hname)

/-- **What the parameters say of each table is what the calls on it said.**  The ranges of the
table do not end before they begin, and no filter is about a column with the name of one of its
settings.  Then its order is made of the terms in the order of the calls, its limit and its offset
are those given last, and what no call gave is not there. -/
theorem Draft.paging_shown
    (hranges : ∀ first last, .range first last table ∈ calls → first ≤ last)
    (hcolumns : ∀ condition, .filter condition ∈ calls →
      ∀ column ∈ condition.columns, column ∉ Paging.names table) :
    (Paging.ofCalls table calls).Shown table
      ((start client relation operation).applyAll calls).params := by
  have hrange : ∀ call ∈ calls, ∀ first last, call = .range first last table → first ≤ last := by
    rintro call hcall first last rfl
    exact hranges first last hcall
  refine ⟨?_, ?_, ?_⟩
  · rw [named_run (by simp [Paging.names]) hcolumns,
      flatMap_eq_map_filterMap fun call _ => call.named_writes_order table, Paging.ofCalls]
    -- the first term begins the order, the others come behind it
    cases calls.filterMap (Call.orderTerm? table) with
    | nil => rfl
    | cons term terms => exact congrArg Option.toList (changeAll_extendOrder term terms)
  · rw [named_run (by simp [Paging.names]) hcolumns,
      flatMap_eq_map_filterMap fun call hcall => call.named_writes_limit (hrange call hcall),
      changeAll_const, Option.or_none]
    rfl
  · rw [named_run (by simp [Paging.names]) hcolumns,
      flatMap_eq_map_filterMap fun call hcall => call.named_writes_offset (hrange call hcall),
      changeAll_const, Option.or_none]
    rfl

end Runs

/-- Messages of users, in an order and on a page of their own, between settings for the users. -/
def pagedCalls : List (Call .read) :=
  [.order "id" false none none, .limit 5 (some "messages"),
    .order "sent" false none (some "messages"), .limit 50 none,
    .filter (.compare .equal "name" (.text "alice")), .range 20 29 none,
    .order "name" true (some true) none, .limit 3 (some "messages")]

/-- Users twenty to twenty-nine, and three messages of each. -/
theorem Draft.paging_shown_messages :
    Paging.Shown ⟨some "id.desc,name.asc.nullsfirst", some 10, some 20⟩ none
        ((start .localhost "users" (.select "*" false none)).applyAll pagedCalls).params ∧
      Paging.Shown ⟨some "sent.desc", some 3, none⟩ (some "messages")
        ((start .localhost "users" (.select "*" false none)).applyAll pagedCalls).params := by
  have hcolumns : ∀ table, "name" ∉ Paging.names table → ∀ condition,
      .filter condition ∈ pagedCalls →
        ∀ column ∈ condition.columns, column ∉ Paging.names table := by
    intro table hname condition hcondition column hcolumn
    obtain rfl : condition = .compare .equal "name" (.text "alice") := by
      simpa [pagedCalls] using hcondition
    rw [List.mem_singleton.mp hcolumn]
    exact hname
  constructor
  · have hpaging : Paging.ofCalls none pagedCalls =
        ⟨some "id.desc,name.asc.nullsfirst", some 10, some 20⟩ := rfl
    rw [← hpaging]
    refine paging_shown ?_ (hcolumns none (by decide))
    intro first last hrange
    obtain ⟨rfl, rfl⟩ : first = 20 ∧ last = 29 := by simpa [pagedCalls] using hrange
    decide
  · have hpaging : Paging.ofCalls (some "messages") pagedCalls =
        ⟨some "sent.desc", some 3, none⟩ := rfl
    rw [← hpaging]
    refine paging_shown ?_ (hcolumns (some "messages") (by decide))
    intro first last hrange
    simp [pagedCalls] at hrange

end GatewayQuery
