/-
What settings make of a value that a filter gave.

A filter's value has an operator and a dot in it, or parentheses around it.  A limit or
an offset is a number and an order only ever grows, so once one of them was written in
place of a filter, or behind one, the value is never again what it was.  Only a select
can by chance be the very text of a filter, and there the last one decides.

No two kinds of setting share a name, whatever tables they speak of: their names end
differently.
-/
import GatewayQuery.Proofs.Request.Params

namespace GatewayQuery

variable {access : Access}

namespace Call

/-- The names of the settings that a call writes. -/
def settings (call : Call access) : List String := call.writes.map (·.1)

/-- The expression of a select, in the form in which it is sent. -/
def select? : Call access → Option String
  | .select columns => some (Select.clean columns)
  | _ => none

/-- What a call makes of the value of the first parameter with a name. -/
def settle (name value : String) (call : Call access) : String :=
  call.writes.foldl (fun value write => if write.1 = name then write.2 (some value) else value)
    value

theorem settle_of_not_mem {name value : String} {call : Call access} (h : name ∉ call.settings) :
    call.settle name value = value := by
  unfold settings at h
  unfold settle
  generalize call.writes = writes at h
  induction writes with
  | nil => rfl
  | cons write writes ih =>
    rw [List.map_cons, List.mem_cons, not_or] at h
    rw [List.foldl_cons, if_neg (Ne.symm h.1)]
    exact ih h.2

end Call

/-- What some calls make of the value of the first parameter with a name. -/
def settleAll (name value : String) (calls : List (Call access)) : String :=
  calls.foldl (fun value call => call.settle name value) value

/-- The calls leave the first parameter with the name as it is: none but a select writes it, and
the last select says the same. -/
structure Untouched (name value : String) (calls : List (Call access)) : Prop where
  unset : ∀ call ∈ calls, name ∈ call.settings → call.select?.isSome = true
  same : name = "select" → ∀ text ∈ (calls.filterMap Call.select?).getLast?, text = value

/-! ### Names of settings -/

/-- The last two characters of a name. -/
def ending (name : String) : List Char := name.toList.reverse.take 2

theorem ending_onTable {setting : String} (h : 2 ≤ setting.toList.length) (table : Option String) :
    ending (onTable setting table) = ending setting := by
  cases table with
  | none => rfl
  | some table =>
    have hlength : 2 ≤ setting.toList.reverse.length := by rwa [List.length_reverse]
    simp only [ending, onTable, String.toList_append, List.reverse_append, List.append_assoc]
    exact List.take_append_of_le_length hlength

/-- The endings of the settings that a call writes. -/
theorem Call.ending_of_mem_settings {name : String} {call : Call access}
    (h : name ∈ call.settings) :
    (∃ column ascending nullsFirst table, call = .order column ascending nullsFirst table ∧
      name = onTable "order" table ∧ ending name = ending "order") ∨
    (∃ count table, call = .limit count table ∧ name = onTable "limit" table ∧
      ending name = ending "limit") ∨
    (∃ first last table, call = .range first last table ∧ ¬last < first ∧
      ((name = onTable "offset" table ∧ ending name = ending "offset") ∨
        (name = onTable "limit" table ∧ ending name = ending "limit"))) ∨
    (name = "select" ∧ call.select?.isSome = true) := by
  cases call with
  | filter condition => simp [settings, writes] at h
  | order column ascending nullsFirst table =>
    obtain rfl : name = onTable "order" table := by simpa [settings, writes] using h
    exact .inl ⟨column, ascending, nullsFirst, table, rfl, rfl, ending_onTable (by decide) table⟩
  | limit count table =>
    obtain rfl : name = onTable "limit" table := by simpa [settings, writes] using h
    exact .inr (.inl ⟨count, table, rfl, rfl, ending_onTable (by decide) table⟩)
  | range first last table =>
    by_cases hrange : last < first
    · simp [settings, writes, hrange] at h
    · have hname : name = onTable "offset" table ∨ name = onTable "limit" table := by
        simpa [settings, writes, hrange] using h
      refine .inr (.inr (.inl ⟨first, last, table, rfl, hrange, ?_⟩))
      rcases hname with rfl | rfl
      · exact .inl ⟨rfl, ending_onTable (by decide) table⟩
      · exact .inr ⟨rfl, ending_onTable (by decide) table⟩
  | single => simp [settings, writes] at h
  | maybeSingle => simp [settings, writes] at h
  | select columns =>
    obtain rfl : name = "select" := by simpa [settings, writes] using h
    exact .inr (.inr (.inr ⟨rfl, rfl⟩))

/-! ### What one call makes of a value -/

namespace Call

/-- Only a select writes the select expression. -/
theorem select?_of_mem_settings {call : Call access} (h : "select" ∈ call.settings) :
    call.select?.isSome = true := by
  rcases ending_of_mem_settings h with ⟨_, _, _, _, -, -, hend⟩ | ⟨_, _, -, -, hend⟩ |
    ⟨_, _, _, -, -, ⟨-, hend⟩ | ⟨-, hend⟩⟩ | ⟨-, hsome⟩
  · exact absurd hend (by decide)
  · exact absurd hend (by decide)
  · exact absurd hend (by decide)
  · exact absurd hend (by decide)
  · exact hsome

theorem settle_select (value : String) (call : Call access) :
    call.settle "select" value = call.select?.getD value := by
  cases hselect : call.select? with
  | some text =>
    cases call with
    | select columns =>
      cases hselect
      rfl
    | _ => cases hselect
  | none =>
    refine settle_of_not_mem fun hmem => ?_
    have hsome := select?_of_mem_settings hmem
    rw [hselect] at hsome
    cases hsome

/-- An order only grows. -/
theorem settle_order {name : String} (hname : ending name = ending "order") (value : String)
    (call : Call access) :
    ∃ more, call.settle name value = value ++ more ∧ (name ∈ call.settings → more ≠ "") := by
  by_cases hmem : name ∈ call.settings
  · rcases ending_of_mem_settings hmem with ⟨column, ascending, nullsFirst, table, rfl, rfl, -⟩ |
      ⟨_, _, -, -, hend⟩ | ⟨_, _, _, -, -, ⟨-, hend⟩ | ⟨-, hend⟩⟩ | ⟨rfl, -⟩
    · refine ⟨"," ++ Draft.orderTerm column ascending nullsFirst, ?_, ?_⟩
      · simp [settle, writes, extendOrder, String.append_assoc]
      · intro _ hempty
        have hlist := congrArg String.toList hempty
        rw [String.toList_append] at hlist
        cases hlist
    · exact absurd (hname.symm.trans hend) (by decide)
    · exact absurd (hname.symm.trans hend) (by decide)
    · exact absurd (hname.symm.trans hend) (by decide)
    · exact absurd hname (by decide)
  · exact ⟨"", by rw [settle_of_not_mem hmem, String.append_empty], fun h => absurd h hmem⟩

/-- A limit and an offset are numbers. -/
theorem settle_number {name : String} (horder : ending name ≠ ending "order")
    (hselect : name ≠ "select") (value : String) {call : Call access}
    (hmem : name ∈ call.settings) : ∃ n : Nat, call.settle name value = toString n := by
  rcases ending_of_mem_settings hmem with ⟨_, _, _, _, -, -, hend⟩ | ⟨count, table, rfl, rfl, -⟩ |
    ⟨first, last, table, rfl, hrange, ⟨rfl, hend⟩ | ⟨rfl, hend⟩⟩ | ⟨hsame, -⟩
  · exact absurd hend horder
  · exact ⟨count, by simp [settle, writes]⟩
  · have hother : onTable "limit" table ≠ onTable "offset" table := by
      intro hsame
      rw [← hsame, ending_onTable (by decide) table] at hend
      exact absurd hend (by decide)
    exact ⟨first, by simp [settle, writes, hrange, hother]⟩
  · exact ⟨last - first + 1, by simp [settle, writes, hrange]⟩
  · exact absurd hsame hselect

end Call

/-! ### What several calls make of a value -/

theorem settleAll_of_not_mem {name : String} {calls : List (Call access)}
    (h : ∀ call ∈ calls, name ∉ call.settings) (value : String) :
    settleAll name value calls = value := by
  induction calls with
  | nil => rfl
  | cons call calls ih =>
    rw [settleAll, List.foldl_cons, Call.settle_of_not_mem (h call (by simp))]
    exact ih fun call hcall => h call (List.mem_cons_of_mem _ hcall)

theorem settleAll_select (value : String) (calls : List (Call access)) :
    settleAll "select" value calls = (calls.filterMap Call.select?).getLast?.getD value := by
  induction calls generalizing value with
  | nil => rfl
  | cons call calls ih =>
    have hrest := ih (call.settle "select" value)
    rw [settleAll] at hrest ⊢
    rw [List.foldl_cons, hrest, Call.settle_select, List.filterMap_cons]
    cases call.select? with
    | none => rfl
    | some text => simp [List.getLast?_cons]

theorem settleAll_order {name : String} (hname : ending name = ending "order") (value : String)
    (calls : List (Call access)) :
    ∃ more, settleAll name value calls = value ++ more ∧
      ((∃ call ∈ calls, name ∈ call.settings) → more ≠ "") := by
  induction calls generalizing value with
  | nil => exact ⟨"", String.append_empty.symm, by simp⟩
  | cons call calls ih =>
    obtain ⟨first, hfirst, hfirstNe⟩ := Call.settle_order hname value call
    obtain ⟨rest, hrest, hrestNe⟩ := ih (call.settle name value)
    refine ⟨first ++ rest, ?_, ?_⟩
    · rw [← String.append_assoc, ← hfirst]
      exact hrest
    · rintro ⟨found, hfound, hmem⟩ hempty
      obtain ⟨rfl, rfl⟩ := String.append_eq_empty_iff.mp hempty
      rcases List.mem_cons.mp hfound with rfl | hfound
      · exact hfirstNe hmem rfl
      · exact hrestNe ⟨found, hfound, hmem⟩ rfl

theorem settleAll_number {name : String} (horder : ending name ≠ ending "order")
    (hselect : name ≠ "select") (value : String) {calls : List (Call access)}
    (h : ∃ call ∈ calls, name ∈ call.settings) :
    ∃ n : Nat, settleAll name value calls = toString n := by
  induction calls generalizing value with
  | nil => simp at h
  | cons call calls ih =>
    by_cases hrest : ∃ call ∈ calls, name ∈ call.settings
    · exact ih (call.settle name value) hrest
    · obtain ⟨found, hfound, hmem⟩ := h
      rcases List.mem_cons.mp hfound with rfl | hfound
      · obtain ⟨n, hn⟩ := Call.settle_number horder hselect value hmem
        refine ⟨n, ?_⟩
        rw [← hn]
        exact settleAll_of_not_mem (fun call hcall hmem => hrest ⟨call, hcall, hmem⟩) _
      · exact absurd ⟨found, hfound, hmem⟩ hrest

theorem not_toString_of_mem {value : String} {c : Char} (hc : c ∈ value.toList)
    (hdigit : c.isDigit = false) (n : Nat) : value ≠ toString n := by
  rintro rfl
  rw [Nat.toString_eq_repr, Nat.toList_repr] at hc
  rw [Nat.isDigit_of_mem_toDigits (by decide) (by decide) hc] at hdigit
  cases hdigit

/-- A value that is no number comes through some calls exactly if they leave it untouched. -/
theorem settleAll_eq_iff {value : String} {c : Char} (hc : c ∈ value.toList)
    (hdigit : c.isDigit = false) (name : String) (calls : List (Call access)) :
    settleAll name value calls = value ↔ Untouched name value calls := by
  by_cases hselect : name = "select"
  · subst hselect
    rw [settleAll_select]
    constructor
    · intro hvalue
      refine ⟨fun call _ hmem => Call.select?_of_mem_settings hmem, ?_⟩
      intro _ text htext
      rw [htext] at hvalue
      exact hvalue
    · intro huntouched
      cases hlast : (calls.filterMap Call.select?).getLast? with
      | none => rfl
      | some text => exact huntouched.same rfl text hlast
  · have hwritten : Untouched name value calls ↔ ∀ call ∈ calls, name ∉ call.settings := by
      constructor
      · intro huntouched call hcall hmem
        have hsome := huntouched.unset call hcall hmem
        cases call with
        | select columns => exact hselect (by simpa [Call.settings, Call.writes] using hmem)
        | _ => cases hsome
      · intro hnone
        exact ⟨fun call hcall hmem => absurd hmem (hnone call hcall), fun h => absurd h hselect⟩
    rw [hwritten]
    refine ⟨fun hvalue call hcall hmem => ?_, fun hnone => settleAll_of_not_mem hnone value⟩
    have hexists : ∃ call ∈ calls, name ∈ call.settings := ⟨call, hcall, hmem⟩
    by_cases horder : ending name = ending "order"
    · obtain ⟨more, hmore, hne⟩ := settleAll_order horder value calls
      rw [hvalue] at hmore
      have hlist : value.toList ++ [] = value.toList ++ more.toList := by
        rw [List.append_nil, ← String.toList_append, ← hmore]
      exact hne hexists (String.toList_eq_nil_iff.mp (List.append_cancel_left hlist).symm)
    · obtain ⟨n, hn⟩ := settleAll_number horder hselect value hexists
      rw [hvalue] at hn
      exact not_toString_of_mem hc hdigit n hn

end GatewayQuery
