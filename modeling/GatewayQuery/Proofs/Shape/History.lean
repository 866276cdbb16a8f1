/-
A shape is a map that remembers when its keys first came.

What a shape is asked for afterwards, the order of its keys and the entry under each, is told by
the list of all that was ever written into it.  A write puts its entry at the end of that list, a
merge puts there what was written into the other shape, and making the values nullable changes every
entry that is in the list by then and none that comes later.  The keys of the shape are the keys of
the list, each where it stands first; the entry under a key is the one that stands last.

The other shape of a merge has a history of its own, so edits nest.  Whatever it went through, only
its keys and entries reach the shape it is merged into, and those are told by its own list.
-/
import GatewayQuery.Proofs.Shape.Merge
import Mathlib.Data.List.Induction

namespace GatewayQuery.Shape

/-- One step in the making of a shape. -/
inductive Edit where
  | insert (key : String) (entry : Entry)
  /-- Merges the shape that other edits make. -/
  | merge (edits : List Edit)
  | nullable

mutual

/-- The shape after an edit. -/
def Edit.apply (shape : Shape) : Edit → Shape
  | .insert key entry => Shape.insert key entry shape
  | .merge edits => Shape.merge shape (Edit.applyAll Shape.empty edits)
  | .nullable => Shape.nullable shape

/-- The shape after some edits. -/
def Edit.applyAll (shape : Shape) : List Edit → Shape
  | [] => shape
  | edit :: rest => Edit.applyAll (edit.apply shape) rest

end

/-- What was written so far, the last entry at the end. -/
abbrev Log := Shape

mutual

/-- The log after an edit. -/
def Edit.record (log : Log) : Edit → Log
  | .insert key entry => log ++ [(key, entry)]
  | .merge edits => log ++ Edit.recordAll [] edits
  | .nullable => Keyed.mapValues Entry.nullable log

/-- The log after some edits. -/
def Edit.recordAll (log : Log) : List Edit → Log
  | [] => log
  | edit :: rest => Edit.recordAll (edit.record log) rest

end

/-! ### First occurrences -/

theorem eraseDups_concat (names : List String) (name : String) :
    (names ++ [name]).eraseDups =
      if name ∈ names then names.eraseDups else names.eraseDups ++ [name] := by
  rw [List.eraseDups_append]
  by_cases h : name ∈ names
  · simp [List.removeAll, h]
  · simp [List.removeAll, h, List.eraseDups_cons]

/-- A repetition that comes later may be left out sooner. -/
theorem eraseDups_append_eraseDups (names more : List String) :
    (names ++ more.eraseDups).eraseDups = (names ++ more).eraseDups := by
  induction more using List.reverseRecOn with
  | nil => rfl
  | append_singleton more name ih =>
    rw [eraseDups_concat, ← List.append_assoc, eraseDups_concat]
    by_cases h : name ∈ more
    · rw [if_pos h, if_pos (List.mem_append_right names h), ih]
    · rw [if_neg h, ← List.append_assoc, eraseDups_concat, ih]
      simp only [List.mem_append, List.mem_eraseDups]

/-! ### A shape and its log -/

/-- The shape has the keys of the log, each where it came first, and under each the entry that came
last. -/
structure Follows (shape : Shape) (log : Log) : Prop where
  distinct : shape.keys.Nodup
  keys : shape.keys = log.keys.eraseDups
  held : ∀ key, shape.get? key = lastAt key log

variable {shape other : Shape} {log more : Log}

theorem follows_empty : Follows empty [] where
  distinct := nodup_empty
  keys := rfl
  held _ := rfl

theorem keys_append (log more : Log) : Shape.keys (log ++ more) = log.keys ++ more.keys :=
  List.map_append

theorem Follows.insert (h : Follows shape log) (key : String) (entry : Entry) :
    Follows (insert key entry shape) (log ++ [(key, entry)]) where
  distinct := nodup_insert key entry h.distinct
  keys := by
    have hkeys : (Shape.insert key entry shape).keys =
        if key ∈ shape.keys then shape.keys else shape.keys ++ [key] :=
      Keyed.keys_insert key entry shape
    have hone : Shape.keys [(key, entry)] = [key] := rfl
    rw [hkeys, keys_append, hone, eraseDups_concat, h.keys]
    simp only [List.mem_eraseDups]
  held asked := by
    have hinsert : (Shape.insert key entry shape).get? asked =
        if key = asked then some entry else shape.get? asked :=
      Keyed.get?_insert key asked entry shape
    rw [hinsert, lastAt_append, lastAt_cons, h.held]
    by_cases hsame : key = asked <;> simp [hsame]

/-- Merging writes one after the other follows the log that they extend. -/
theorem Follows.writes (h : Follows shape log) (written : Log) :
    Follows (merge shape written) (log ++ written) := by
  induction written generalizing shape log with
  | nil =>
    rw [List.append_nil]
    exact h
  | cons write rest ih =>
    have hrest := ih (h.insert write.1 write.2)
    rw [List.append_assoc] at hrest
    exact hrest

/-- A merge brings what the log of the other shape brings, although the shape itself has forgotten
the entries that were written over. -/
theorem Follows.merge (h : Follows shape log) (hother : Follows other more) :
    Follows (merge shape other) (log ++ more) where
  distinct := nodup_merge h.distinct other
  keys := by
    rw [(h.writes other).keys, keys_append, keys_append, hother.keys, eraseDups_append_eraseDups]
  held key := by
    rw [get?_merge, lastAt_of_nodup hother.distinct, hother.held, h.held, lastAt_append]

theorem Follows.nullable (h : Follows shape log) :
    Follows shape.nullable (Keyed.mapValues Entry.nullable log) where
  distinct := by
    rw [keys_nullable]
    exact h.distinct
  keys := by
    have hkeys : Shape.keys (Keyed.mapValues Entry.nullable log) = log.keys := keys_nullable log
    rw [keys_nullable, hkeys, h.keys]
  held key := by
    have hlast : lastAt key (Keyed.mapValues Entry.nullable log) =
        (lastAt key log).map Entry.nullable := lastAt_nullable key log
    have hget : shape.nullable.get? key = (shape.get? key).map Entry.nullable := by
      rw [← lastAt_of_nodup h.distinct, ← lastAt_nullable, lastAt_of_nodup]
      rw [keys_nullable]
      exact h.distinct
    rw [hget, hlast, h.held]

mutual

/-- Whatever an edit does to a shape, the log tells. -/
theorem Follows.edit {shape : Shape} {log : Log} (h : Follows shape log) :
    ∀ edit : Edit, Follows (edit.apply shape) (edit.record log)
  | .insert key entry => by
    rw [Edit.apply, Edit.record]
    exact h.insert key entry
  | .merge edits => by
    rw [Edit.apply, Edit.record]
    exact h.merge (follows_empty.edits edits)
  | .nullable => by
    rw [Edit.apply, Edit.record]
    exact h.nullable

theorem Follows.edits {shape : Shape} {log : Log} (h : Follows shape log) :
    ∀ edits : List Edit, Follows (Edit.applyAll shape edits) (Edit.recordAll log edits)
  | [] => by
    rw [Edit.applyAll, Edit.recordAll]
    exact h
  | edit :: rest => by
    rw [Edit.applyAll, Edit.recordAll]
    exact (h.edit edit).edits rest

end

/-! ### The last write under a key -/

/-- Whether an edit makes the values nullable. -/
def Edit.lifts : Edit → Bool
  | .nullable => true
  | _ => false

/-- The entry, its value possibly null if it was made so by one of some edits. -/
def liftedBy (edits : List Edit) (entry : Entry) : Entry :=
  if edits.any Edit.lifts then entry.nullable else entry

theorem nullable_entry_nullable (entry : Entry) : entry.nullable.nullable = entry.nullable := by
  cases entry <;> rfl

theorem liftedBy_cons (edit : Edit) (rest : List Edit) (entry : Entry) :
    liftedBy rest (liftedBy [edit] entry) = liftedBy (edit :: rest) entry := by
  cases edit with
  | insert key held => rfl
  | merge edits => rfl
  | nullable =>
    show (if rest.any Edit.lifts then entry.nullable.nullable else entry.nullable) = entry.nullable
    rw [nullable_entry_nullable, ite_self]

theorem keys_record (log : Log) (edit : Edit) :
    Shape.keys (edit.record log) = log.keys ++ Shape.keys (edit.record []) := by
  cases edit with
  | insert key entry => exact keys_append log _
  | merge edits =>
    rw [Edit.record, Edit.record, List.nil_append]
    exact keys_append log _
  | nullable =>
    have hkeys : Shape.keys (Keyed.mapValues Entry.nullable log) = log.keys := keys_nullable log
    rw [Edit.record, hkeys]
    exact (List.append_nil _).symm

theorem keys_recordAll (log : Log) (edits : List Edit) :
    Shape.keys (Edit.recordAll log edits) = log.keys ++ Shape.keys (Edit.recordAll [] edits) := by
  induction edits generalizing log with
  | nil =>
    rw [Edit.recordAll, Edit.recordAll]
    exact (List.append_nil _).symm
  | cons edit rest ih =>
    rw [Edit.recordAll, Edit.recordAll, ih, ih (edit.record []), keys_record, List.append_assoc]

theorem recordAll_append (log : Log) (edits more : List Edit) :
    Edit.recordAll log (edits ++ more) = Edit.recordAll (Edit.recordAll log edits) more := by
  induction edits generalizing log with
  | nil => rw [List.nil_append, Edit.recordAll]
  | cons edit rest ih => rw [List.cons_append, Edit.recordAll, Edit.recordAll, ih]

/-- An edit that does not write a key leaves the entry under it, or makes its value nullable. -/
theorem lastAt_record {key : String} {edit : Edit} (h : key ∉ Shape.keys (edit.record []))
    (log : Log) : lastAt key (edit.record log) = (lastAt key log).map (liftedBy [edit]) := by
  have hkept (written : Log) (hnone : lastAt key written = none) :
      lastAt key (log ++ written) = (lastAt key log).map id := by
    rw [lastAt_append, hnone, Option.map_id]
    rfl
  have hnone := lastAt_eq_none_iff.mpr h
  cases edit with
  | insert other entry => exact hkept _ hnone
  | merge edits =>
    rw [Edit.record, List.nil_append] at hnone
    rw [Edit.record]
    exact hkept _ hnone
  | nullable => exact lastAt_nullable key log

theorem lastAt_recordAll {key : String} {edits : List Edit}
    (h : key ∉ Shape.keys (Edit.recordAll [] edits)) (log : Log) :
    lastAt key (Edit.recordAll log edits) = (lastAt key log).map (liftedBy edits) := by
  induction edits generalizing log with
  | nil =>
    rw [Edit.recordAll]
    exact Option.map_id'.symm
  | cons edit rest ih =>
    rw [Edit.recordAll, keys_recordAll, List.mem_append, not_or] at h
    rw [Edit.recordAll, ih h.2, lastAt_record h.1, Option.map_map]
    exact congrArg (fun lift => (lastAt key log).map lift) (funext (liftedBy_cons edit rest))

theorem lastAt_record_of_written {key : String} {edit : Edit} {entry : Entry}
    (h : lastAt key (edit.record []) = some entry) (log : Log) :
    lastAt key (edit.record log) = some entry := by
  cases edit with
  | insert other held =>
    rw [Edit.record, lastAt_append]
    rw [Edit.record, List.nil_append] at h
    rw [h, Option.some_or]
  | merge edits =>
    rw [Edit.record, lastAt_append]
    rw [Edit.record, List.nil_append] at h
    rw [h, Option.some_or]
  | nullable => cases h

/-- What was written last under a key is there, and its value may be null if an edit after that
write made the values nullable. -/
theorem get?_of_last_write {before after : List Edit} {edit : Edit} {key : String} {entry : Entry}
    (hedit : lastAt key (edit.record []) = some entry)
    (hafter : key ∉ Shape.keys (Edit.recordAll [] after)) :
    (Edit.applyAll empty (before ++ edit :: after)).get? key = some (liftedBy after entry) := by
  rw [(follows_empty.edits (before ++ edit :: after)).held, recordAll_append, Edit.recordAll,
    lastAt_recordAll hafter, lastAt_record_of_written hedit, Option.map_some]

end GatewayQuery.Shape
