/-
What becomes of a shape when entries are merged into it.

A merge is a sequence of writes, and of the writes under one key the last one counts.  Three
views say all that is needed of it: the entry under a key, the order of the keys, and what is
left when some keys are not looked at.
-/
import GatewayQuery.Shape.Basic
import GatewayQuery.Proofs.Keyed

namespace GatewayQuery.Shape

theorem merge_cons (shape : Shape) (key : String) (entry : Entry) (rest : Shape) :
    merge shape ((key, entry) :: rest) = merge (insert key entry shape) rest := rfl

/-- Merging one after the other is merging what comes one after the other. -/
theorem merge_append (shape first second : Shape) :
    merge shape (first ++ second) = merge (merge shape first) second :=
  List.foldl_append

/-- The entry that was written last under a key. -/
def lastAt (key : String) (writes : Shape) : Option Entry := (Keyed.named key writes).getLast?

@[simp] theorem lastAt_nil (key : String) : lastAt key [] = none := rfl

theorem lastAt_append (key : String) (first second : Shape) :
    lastAt key (first ++ second) = (lastAt key second).or (lastAt key first) := by
  unfold lastAt
  rw [Keyed.named_append, List.getLast?_append]

theorem lastAt_cons (key other : String) (entry : Entry) (rest : Shape) :
    lastAt key ((other, entry) :: rest) =
      (lastAt key rest).or (if other = key then some entry else none) := by
  have happend := lastAt_append key [(other, entry)] rest
  rw [List.singleton_append] at happend
  rw [happend]
  by_cases h : other = key <;> simp [lastAt, h]

theorem lastAt_eq_none_iff {key : String} {writes : Shape} :
    lastAt key writes = none ↔ key ∉ writes.keys := by
  unfold lastAt
  rw [List.getLast?_eq_none_iff]
  exact Keyed.named_eq_nil_iff

/-- **Of the writes under a key the last one counts**; a key that is not written keeps its entry. -/
theorem get?_merge (key : String) (shape writes : Shape) :
    (merge shape writes).get? key = (lastAt key writes).or (shape.get? key) := by
  induction writes generalizing shape with
  | nil => rfl
  | cons write rest ih =>
    obtain ⟨other, entry⟩ := write
    have hinsert : (insert other entry shape).get? key =
        if other = key then some entry else shape.get? key :=
      Keyed.get?_insert other key entry shape
    rw [merge_cons, ih, hinsert, lastAt_cons]
    by_cases h : other = key
    · rw [if_pos h, if_pos h]
      cases lastAt key rest <;> rfl
    · rw [if_neg h, if_neg h, Option.or_none]

/-! ### Keys occur once -/

theorem nodup_insert {shape : Shape} (key : String) (entry : Entry) (h : shape.keys.Nodup) :
    (insert key entry shape).keys.Nodup :=
  Keyed.nodup_keys_alter h key _

theorem nodup_merge {shape : Shape} (h : shape.keys.Nodup) (writes : Shape) :
    (merge shape writes).keys.Nodup := by
  induction writes generalizing shape with
  | nil => exact h
  | cons write rest ih => exact ih (nodup_insert write.1 write.2 h)

/-- A shape without repeated keys holds one entry under each. -/
theorem lastAt_of_nodup {shape : Shape} (h : shape.keys.Nodup) (key : String) :
    lastAt key shape = shape.get? key := by
  have htail := Keyed.named_tail h key
  have hget : shape.get? key = (Keyed.named key shape).head? := Keyed.get?_eq_head? key shape
  unfold lastAt
  rw [hget]
  cases hnamed : Keyed.named key shape with
  | nil => rfl
  | cons entry rest =>
    rw [hnamed, List.tail_cons] at htail
    rw [htail]
    rfl

theorem nodup_empty : (Shape.keys empty).Nodup := List.Pairwise.nil

theorem lastAt_merge_empty (key : String) (writes : Shape) :
    lastAt key (merge empty writes) = lastAt key writes := by
  rw [lastAt_of_nodup (nodup_merge nodup_empty writes), get?_merge]
  exact Option.or_none

/-! ### Values that may be null -/

theorem keys_nullable (shape : Shape) : shape.nullable.keys = shape.keys :=
  Keyed.keys_mapValues Entry.nullable shape

theorem lastAt_nullable (key : String) (shape : Shape) :
    lastAt key shape.nullable = (lastAt key shape).map Entry.nullable := by
  have hnamed : Keyed.named key shape.nullable = (Keyed.named key shape).map Entry.nullable :=
    Keyed.named_mapValues Entry.nullable key shape
  unfold lastAt
  rw [hnamed, List.getLast?_map]

/-! ### Leaving keys out -/

/-- The shape without some keys. -/
def without (keys : List String) (shape : Shape) : Shape :=
  shape.filter fun field => field.1 ∉ keys

theorem without_cons (keys : List String) (key : String) (entry : Entry) (rest : Shape) :
    without keys ((key, entry) :: rest) =
      if key ∈ keys then without keys rest else (key, entry) :: without keys rest := by
  by_cases h : key ∈ keys <;> simp [without, h]

theorem without_append (keys : List String) (first second : Shape) :
    without keys (first ++ second) = without keys first ++ without keys second :=
  List.filter_append first second

theorem without_eq_nil {keys : List String} {shape : Shape} (h : ∀ key ∈ shape.keys, key ∈ keys) :
    without keys shape = [] := by
  unfold without
  rw [List.filter_eq_nil_iff]
  intro field hfield
  simpa using h field.1 (List.mem_map_of_mem hfield)

theorem keys_without (keys : List String) (shape : Shape) :
    (without keys shape).keys = shape.keys.filter (· ∉ keys) := by
  unfold without Shape.keys Keyed.keys
  rw [List.filter_map]
  rfl

theorem get?_cons (key other : String) (entry : Entry) (rest : Shape) :
    Shape.get? key ((other, entry) :: rest) =
      if other = key then some entry else Shape.get? key rest :=
  Keyed.get?_cons key other entry rest

theorem get?_without {keys : List String} {key : String} (h : key ∉ keys) (shape : Shape) :
    (without keys shape).get? key = shape.get? key := by
  induction shape with
  | nil => rfl
  | cons field rest ih =>
    obtain ⟨other, entry⟩ := field
    rw [without_cons, get?_cons]
    by_cases hleft : other ∈ keys
    · have hother : other ≠ key := by
        rintro rfl
        exact h hleft
      rw [if_pos hleft, if_neg hother, ih]
    · rw [if_neg hleft, get?_cons, ih]

theorem insert_cons (key other : String) (entry held : Entry) (rest : Shape) :
    insert key entry ((other, held) :: rest) =
      if other = key then (other, entry) :: rest else (other, held) :: insert key entry rest :=
  rfl

theorem without_insert (keys : List String) (key : String) (entry : Entry) (shape : Shape) :
    without keys (insert key entry shape) =
      if key ∈ keys then without keys shape else insert key entry (without keys shape) := by
  induction shape with
  | nil => exact without_cons keys key entry []
  | cons field rest ih =>
    obtain ⟨other, held⟩ := field
    rw [insert_cons, without_cons]
    by_cases hsame : other = key
    · subst hsame
      rw [if_pos rfl, without_cons]
      by_cases hleft : other ∈ keys
      · rw [if_pos hleft, if_pos hleft, if_pos hleft]
      · rw [if_neg hleft, if_neg hleft, if_neg hleft, insert_cons, if_pos rfl]
    · rw [if_neg hsame, without_cons, ih]
      by_cases hleft : other ∈ keys
      · rw [if_pos hleft, if_pos hleft]
      · rw [if_neg hleft, if_neg hleft]
        by_cases hkey : key ∈ keys
        · rw [if_pos hkey, if_pos hkey]
        · rw [if_neg hkey, if_neg hkey, insert_cons, if_neg hsame]

/-- What is not looked at need not be merged. -/
theorem without_merge (keys : List String) (shape writes : Shape) :
    without keys (merge shape writes) = merge (without keys shape) (without keys writes) := by
  induction writes generalizing shape with
  | nil => rfl
  | cons write rest ih =>
    obtain ⟨key, entry⟩ := write
    rw [merge_cons, ih, without_insert, without_cons]
    by_cases h : key ∈ keys
    · rw [if_pos h, if_pos h]
    · rw [if_neg h, if_neg h, merge_cons]

/-! ### What all entries have in common -/

/-- Every entry of the shape has the property. -/
def All (E : Entry → Prop) (shape : Shape) : Prop := ∀ write ∈ shape, E write.2

variable {E : Entry → Prop} {shape written : Shape}

theorem all_nil : All E [] := List.forall_mem_nil _

theorem all_cons {field : String × Entry} {rest : Shape} :
    All E (field :: rest) ↔ E field.2 ∧ All E rest := by
  unfold All
  rw [List.forall_mem_cons]

theorem all_append {first second : Shape} :
    All E (first ++ second) ↔ All E first ∧ All E second :=
  List.forall_mem_append

theorem all_singleton {key : String} {entry : Entry} : All E [(key, entry)] ↔ E entry :=
  List.forall_mem_singleton

theorem all_insert {entry : Entry} (key : String) (hentry : E entry) (h : All E shape) :
    All E (insert key entry shape) := by
  induction shape with
  | nil => exact all_singleton.mpr hentry
  | cons field rest ih =>
    obtain ⟨other, held⟩ := field
    obtain ⟨hheld, hrest⟩ := all_cons.mp h
    rw [insert_cons]
    by_cases hsame : other = key
    · rw [if_pos hsame]
      exact all_cons.mpr ⟨hentry, hrest⟩
    · rw [if_neg hsame]
      exact all_cons.mpr ⟨hheld, ih hrest⟩

theorem all_merge (h : All E shape) (hwritten : All E written) : All E (merge shape written) := by
  induction written generalizing shape with
  | nil => exact h
  | cons write rest ih =>
    obtain ⟨hwrite, hrest⟩ := all_cons.mp hwritten
    exact ih (all_insert write.1 hwrite h) hrest

theorem all_nullable (hnullable : ∀ entry, E entry → E entry.nullable) (h : All E shape) :
    All E shape.nullable := by
  intro write hmem
  obtain ⟨field, hfield, rfl⟩ := List.mem_map.mp hmem
  exact hnullable field.2 (h field hfield)

end GatewayQuery.Shape
