/-
Values under keys, in the order in which the keys were first written.  Writing a key that is there
changes its value where it stands; writing another one adds it at the end.  The keys of a shape, the
headers of a request and those parameters of a query that are settings all work this way.
-/

namespace GatewayQuery.Keyed

variable {α : Type}

/-- Changes the value of the first entry with the key, or adds one. -/
def alter (key : String) (change : Option α → α) : List (String × α) → List (String × α)
  | [] => [(key, change none)]
  | (other, held) :: rest =>
    if other = key then (other, change (some held)) :: rest
    else (other, held) :: alter key change rest

/-- Writes a value under a key. -/
def insert (key : String) (value : α) (entries : List (String × α)) : List (String × α) :=
  alter key (fun _ => value) entries

/-- The value under a key. -/
def get? (key : String) (entries : List (String × α)) : Option α :=
  (entries.find? fun entry => entry.1 == key).map (·.2)

/-- The keys in order. -/
def keys (entries : List (String × α)) : List String := entries.map (·.1)

@[simp] theorem get?_nil (key : String) : get? key ([] : List (String × α)) = none := rfl

@[simp] theorem get?_cons (key other : String) (value : α) (rest : List (String × α)) :
    get? key ((other, value) :: rest) = if other = key then some value else get? key rest := by
  by_cases h : other = key <;> simp [get?, h]

/-- Only the value under the key changes. -/
theorem get?_alter (key other : String) (change : Option α → α) (entries : List (String × α)) :
    get? other (alter key change entries) =
      if key = other then some (change (get? key entries)) else get? other entries := by
  induction entries with
  | nil => simp [alter]
  | cons entry rest ih =>
    obtain ⟨held, value⟩ := entry
    by_cases same : held = key
    · subst same
      by_cases asked : held = other <;> simp [alter, asked]
    · by_cases asked : key = other
      · subst asked
        simp [alter, same, ih]
      · simp [alter, same, asked, ih]

theorem get?_insert (key other : String) (value : α) (entries : List (String × α)) :
    get? other (insert key value entries) =
      if key = other then some value else get? other entries := by
  simp [insert, get?_alter]

/-- A new key comes last, an old one stays where it is. -/
theorem keys_alter (key : String) (change : Option α → α) (entries : List (String × α)) :
    keys (alter key change entries) =
      if key ∈ keys entries then keys entries else keys entries ++ [key] := by
  induction entries with
  | nil => simp [alter, keys]
  | cons entry rest ih =>
    obtain ⟨held, value⟩ := entry
    by_cases same : held = key
    · simp [alter, keys, same]
    · have other : ¬key = held := fun h => same h.symm
      have tail : keys (alter key change ((held, value) :: rest)) =
          held :: keys (alter key change rest) := by
        simp [alter, keys, same]
      have whole : keys ((held, value) :: rest) = held :: keys rest := rfl
      rw [tail, ih, whole]
      by_cases inside : key ∈ keys rest <;> simp [inside, other]

theorem keys_insert (key : String) (value : α) (entries : List (String × α)) :
    keys (insert key value entries) =
      if key ∈ keys entries then keys entries else keys entries ++ [key] :=
  keys_alter key _ entries

theorem get?_eq_none_iff {key : String} {entries : List (String × α)} :
    get? key entries = none ↔ key ∉ keys entries := by
  induction entries with
  | nil => simp [keys]
  | cons entry rest ih =>
    obtain ⟨held, value⟩ := entry
    have whole : keys ((held, value) :: rest) = held :: keys rest := rfl
    by_cases same : held = key
    · subst same
      simp [keys]
    · have other : ¬key = held := fun h => same h.symm
      simp [whole, same, other, ih]

end GatewayQuery.Keyed
