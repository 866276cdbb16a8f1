/-
All the values under one key.

A look-up gives the first value under a key.  Where a key may have several, as among
the parameters of a request, a write has to be followed value by value: it changes the
first one and leaves the others alone, so what stands under a key is a list of which
only the head is ever written.
-/
import GatewayQuery.Keyed

namespace GatewayQuery.Keyed

variable {α β : Type}

/-- The values under a key, in order. -/
def named (key : String) (entries : List (String × α)) : List α :=
  entries.filterMap fun entry => if entry.1 = key then some entry.2 else none

@[simp] theorem named_nil (key : String) : named key ([] : List (String × α)) = [] := rfl

@[simp] theorem named_cons (key other : String) (value : α) (rest : List (String × α)) :
    named key ((other, value) :: rest) =
      if other = key then value :: named key rest else named key rest := by
  by_cases h : other = key
  · simp [named, h]
  · simp [named, h]

@[simp] theorem named_append (key : String) (entries more : List (String × α)) :
    named key (entries ++ more) = named key entries ++ named key more := by
  simp [named]

theorem mem_named {key : String} {entries : List (String × α)} {value : α} :
    value ∈ named key entries ↔ (key, value) ∈ entries := by
  induction entries with
  | nil => simp
  | cons entry rest ih =>
    obtain ⟨other, held⟩ := entry
    by_cases h : other = key
    · subst h
      simp [ih]
    · simp [h, ih, Ne.symm h]

theorem get?_eq_head? (key : String) (entries : List (String × α)) :
    get? key entries = (named key entries).head? := by
  induction entries with
  | nil => rfl
  | cons entry rest ih =>
    obtain ⟨other, held⟩ := entry
    by_cases h : other = key <;> simp [h, ih]

theorem named_eq_nil_iff {key : String} {entries : List (String × α)} :
    named key entries = [] ↔ key ∉ keys entries := by
  rw [← get?_eq_none_iff, get?_eq_head?, List.head?_eq_none_iff]

/-- Where no key occurs twice there is at most one value under each. -/
theorem named_tail {entries : List (String × α)} (h : (keys entries).Nodup) (key : String) :
    (named key entries).tail = [] := by
  induction entries with
  | nil => rfl
  | cons entry rest ih =>
    obtain ⟨other, held⟩ := entry
    have hwhole : keys ((other, held) :: rest) = other :: keys rest := rfl
    rw [hwhole, List.nodup_cons] at h
    rw [named_cons]
    split
    · rename_i hsame
      rw [List.tail_cons, named_eq_nil_iff, ← hsame]
      exact h.1
    · exact ih h.2

theorem named_sublist (key : String) {entries more : List (String × α)}
    (h : entries.Sublist more) : (named key entries).Sublist (named key more) :=
  h.filterMap _

/-- Where no key occurs twice, the keys in their order and the value under each are all there is. -/
theorem ext_of_nodup {entries others : List (String × α)} (h : (keys entries).Nodup)
    (hkeys : keys entries = keys others) (hget : ∀ key, get? key entries = get? key others) :
    entries = others := by
  induction entries generalizing others with
  | nil => exact (List.map_eq_nil_iff.mp hkeys.symm).symm
  | cons entry rest ih =>
    obtain ⟨key, value⟩ := entry
    cases others with
    | nil => cases hkeys
    | cons other more =>
      obtain ⟨otherKey, otherValue⟩ := other
      obtain ⟨hsame, hrest⟩ := List.cons.inj hkeys
      obtain rfl : key = otherKey := hsame
      obtain ⟨hnew, hdistinct⟩ := List.nodup_cons.mp h
      have hvalue := hget key
      rw [get?_cons, get?_cons, if_pos rfl, if_pos rfl] at hvalue
      rw [Option.some.inj hvalue, ih hdistinct hrest]
      intro asked
      have hasked := hget asked
      rw [get?_cons, get?_cons] at hasked
      by_cases hkey : key = asked
      · subst hkey
        have hmore : key ∉ keys more := fun hmem => hnew (hrest.symm ▸ hmem)
        rw [get?_eq_none_iff.mpr hnew, get?_eq_none_iff.mpr hmore]
      · rwa [if_neg hkey, if_neg hkey] at hasked

/-! ### Changing every value -/

/-- The entries with every value changed. -/
def mapValues (f : α → β) (entries : List (String × α)) : List (String × β) :=
  entries.map fun entry => (entry.1, f entry.2)

@[simp] theorem mapValues_nil (f : α → β) : mapValues f [] = [] := rfl

@[simp] theorem mapValues_cons (f : α → β) (key : String) (value : α)
    (rest : List (String × α)) :
    mapValues f ((key, value) :: rest) = (key, f value) :: mapValues f rest := rfl

@[simp] theorem mapValues_append (f : α → β) (entries more : List (String × α)) :
    mapValues f (entries ++ more) = mapValues f entries ++ mapValues f more := by
  simp [mapValues]

theorem mapValues_cancel {f : α → β} {g : β → α} (h : ∀ value, g (f value) = value)
    (entries : List (String × α)) : mapValues g (mapValues f entries) = entries := by
  induction entries with
  | nil => rfl
  | cons entry rest ih =>
    obtain ⟨key, value⟩ := entry
    rw [mapValues_cons, mapValues_cons, h, ih]

theorem keys_mapValues (f : α → β) (entries : List (String × α)) :
    keys (mapValues f entries) = keys entries := by
  simp [keys, mapValues]

theorem named_mapValues (f : α → β) (key : String) (entries : List (String × α)) :
    named key (mapValues f entries) = (named key entries).map f := by
  induction entries with
  | nil => rfl
  | cons entry rest ih =>
    obtain ⟨other, held⟩ := entry
    by_cases h : other = key <;> simp [h, ih]

/-! ### Writing -/

/-- A write changes the head of the values under its key and nothing else. -/
theorem named_alter (key other : String) (change : Option α → α) (entries : List (String × α)) :
    named other (alter key change entries) =
      if key = other then change (named other entries).head? :: (named other entries).tail
      else named other entries := by
  induction entries with
  | nil => by_cases h : key = other <;> simp [alter, h]
  | cons entry rest ih =>
    obtain ⟨held, value⟩ := entry
    by_cases hsame : held = key
    · subst hsame
      by_cases h : held = other <;> simp [alter, h]
    · by_cases h : key = other
      · subst h
        simp [alter, hsame, ih]
      · rw [alter, if_neg hsame, named_cons, named_cons, ih, if_neg h, if_neg h]

/-- A new key comes behind the others. -/
theorem alter_of_not_mem {key : String} {entries : List (String × α)} (h : key ∉ keys entries)
    (change : Option α → α) : alter key change entries = entries ++ [(key, change none)] := by
  induction entries with
  | nil => rfl
  | cons entry rest ih =>
    obtain ⟨held, value⟩ := entry
    have hwhole : keys ((held, value) :: rest) = held :: keys rest := rfl
    rw [hwhole, List.mem_cons, not_or] at h
    rw [alter, if_neg (Ne.symm h.1), ih h.2]
    rfl

theorem nodup_keys_alter {entries : List (String × α)} (h : (keys entries).Nodup) (key : String)
    (change : Option α → α) : (keys (alter key change entries)).Nodup := by
  rw [keys_alter]
  split
  · exact h
  · next hnew =>
    refine List.nodup_append.mpr ⟨h, List.pairwise_singleton _ _, ?_⟩
    rintro other hother _ hkey rfl
    rw [List.mem_singleton.mp hkey] at hother
    exact hnew hother

theorem mapValues_alter (f : α → β) (key : String) {change : Option α → α}
    {after : Option β → β} (h : ∀ held, f (change held) = after (held.map f))
    (entries : List (String × α)) :
    mapValues f (alter key change entries) = alter key after (mapValues f entries) := by
  induction entries with
  | nil => simp [alter, h]
  | cons entry rest ih =>
    obtain ⟨held, value⟩ := entry
    by_cases hsame : held = key <;> simp [alter, hsame, h, ih]

end GatewayQuery.Keyed
