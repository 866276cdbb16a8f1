/-
When two shapes are alike.

The shapes of one expression against two schemas, or of two expressions against one, are
compared key by key and at every depth.  The keys, their order and the types have to be the
same.  How far nullability and diagnoses may differ depends on what is changed between the
two, so it is a parameter, and all that is asked of it is that `or` and `and` respect it:
these are the only ways in which nullability is put together.

A shape comes about by writing entries, by merging and by lifting the nullability of a row
to its columns.  Each of the three keeps shapes alike, whatever the parameter is.
-/
import GatewayQuery.Shape.Build
import GatewayQuery.Proofs.Shape.Merge
import Mathlib.Data.List.Forall2

namespace GatewayQuery

/-- How far two shapes may differ. -/
structure Tolerance where
  /-- The nullability of one value, and the one that may stand in its place. -/
  nullable : Bool → Bool → Prop
  /-- A diagnosis, and the one that may stand in its place. -/
  diagnosis : Diagnosis → Diagnosis → Prop
  nullable_refl : ∀ a, nullable a a
  nullable_or : ∀ {a b c d}, nullable a b → nullable c d → nullable (a || c) (b || d)
  nullable_and : ∀ {a b c d}, nullable a b → nullable c d → nullable (a && c) (b && d)
  diagnosis_refl : ∀ d, diagnosis d d

/-- Two outcomes that both succeed or both fail, with related values or related failures. -/
inductive Outcomes {ε α β : Type} (Failures : ε → ε → Prop) (Values : α → β → Prop) :
    Except ε α → Except ε β → Prop
  | ok {value : α} {other : β} (h : Values value other) :
    Outcomes Failures Values (.ok value) (.ok other)
  | error {failure other : ε} (h : Failures failure other) :
    Outcomes Failures Values (.error failure) (.error other)

theorem Outcomes.refl {ε α : Type} {Failures : ε → ε → Prop} {Values : α → α → Prop}
    (hfailures : ∀ failure, Failures failure failure) (hvalues : ∀ value, Values value value)
    (outcome : Except ε α) : Outcomes Failures Values outcome outcome := by
  cases outcome with
  | error failure => exact .error (hfailures failure)
  | ok value => exact .ok (hvalues value)

theorem Outcomes.value {ε α β : Type} {Failures : ε → ε → Prop} {Values : α → β → Prop} {value : α}
    {other : β} (h : Outcomes Failures Values (.ok value) (.ok other)) : Values value other := by
  cases h with
  | ok hvalues => exact hvalues

mutual

/-- Types that are the same but for what is tolerated in the rows inside. -/
def ValueType.Alike (tolerance : Tolerance) : ValueType → ValueType → Prop
  | .array element, .array other => element.Alike tolerance other
  | .object fields, .object others => Shape.Alike tolerance fields others
  | type, other => type = other

def Entry.Alike (tolerance : Tolerance) : Entry → Entry → Prop
  | .typed type nullable, .typed other otherNullable =>
    type.Alike tolerance other ∧ tolerance.nullable nullable otherNullable
  | .failed diagnosis, .failed other => tolerance.diagnosis diagnosis other
  | _, _ => False

/-- The same keys in the same order, with entries that are alike. -/
def Shape.Alike (tolerance : Tolerance) :
    List (String × Entry) → List (String × Entry) → Prop
  | [], [] => True
  | (key, entry) :: rest, (otherKey, other) :: others =>
    key = otherKey ∧ entry.Alike tolerance other ∧ Shape.Alike tolerance rest others
  | _, _ => False

end

variable {tolerance : Tolerance}

mutual

theorem ValueType.alike_refl : ∀ type : ValueType, type.Alike tolerance type
  | .array element => element.alike_refl
  | .object fields => Shape.alike_refl fields
  | .number | .string | .boolean | .json | .record | .void | .unknown | .enumeration _ => rfl

theorem Entry.alike_refl : ∀ entry : Entry, entry.Alike tolerance entry
  | .typed type nullable => ⟨type.alike_refl, tolerance.nullable_refl nullable⟩
  | .failed diagnosis => tolerance.diagnosis_refl diagnosis

theorem Shape.alike_refl : ∀ fields : List (String × Entry), Shape.Alike tolerance fields fields
  | [] => trivial
  | (_, entry) :: rest => ⟨rfl, entry.alike_refl, Shape.alike_refl rest⟩

end

namespace Shape

/-- A key with its entry, and the same key with an entry that is alike. -/
def FieldsAlike (tolerance : Tolerance) (field twin : String × Entry) : Prop :=
  field.1 = twin.1 ∧ field.2.Alike tolerance twin.2

/-- Shapes are compared field by field. -/
theorem alike_iff_forall₂ : ∀ {shape others : Shape},
    Alike tolerance shape others ↔ List.Forall₂ (FieldsAlike tolerance) shape others
  | [], [] => iff_of_true trivial .nil
  | [], _ :: _ => iff_of_false id (by simp)
  | _ :: _, [] => iff_of_false id (by simp)
  | (_, _) :: _, (_, _) :: _ => by
    rw [Alike, List.forall₂_cons, ← alike_iff_forall₂, ← and_assoc]
    rfl

theorem alike_singleton {key : String} {entry twin : Entry} (h : entry.Alike tolerance twin) :
    Alike tolerance [(key, entry)] [(key, twin)] :=
  ⟨rfl, h, trivial⟩

theorem alike_append {first second firstTwin secondTwin : Shape}
    (hfirst : Alike tolerance first firstTwin) (hsecond : Alike tolerance second secondTwin) :
    Alike tolerance (first ++ second) (firstTwin ++ secondTwin) := by
  rw [alike_iff_forall₂] at *
  exact List.rel_append hfirst hsecond

theorem alike_insert {shape others : Shape} {entry twin : Entry} (key : String)
    (hentry : entry.Alike tolerance twin) (h : Alike tolerance shape others) :
    Alike tolerance (insert key entry shape) (insert key twin others) := by
  rw [alike_iff_forall₂] at h
  induction h with
  | nil => exact alike_singleton hentry
  | @cons field held rest others hfield hrest ih =>
    obtain ⟨other, entry⟩ := field
    obtain ⟨otherTwin, heldTwin⟩ := held
    obtain ⟨hkey, hheld⟩ := hfield
    obtain rfl : other = otherTwin := hkey
    rw [insert_cons, insert_cons]
    by_cases hsame : other = key
    · rw [if_pos hsame, if_pos hsame]
      exact ⟨rfl, hentry, alike_iff_forall₂.mpr hrest⟩
    · rw [if_neg hsame, if_neg hsame]
      exact ⟨rfl, hheld, ih⟩

theorem alike_merge {shape others written twins : Shape} (h : Alike tolerance shape others)
    (hwritten : Alike tolerance written twins) :
    Alike tolerance (merge shape written) (merge others twins) := by
  rw [alike_iff_forall₂] at hwritten
  induction hwritten generalizing shape others with
  | nil => exact h
  | @cons field twin rest others hfield hrest ih =>
    obtain ⟨key, entry⟩ := field
    obtain ⟨keyTwin, entryTwin⟩ := twin
    obtain ⟨hkey, hentry⟩ := hfield
    obtain rfl : key = keyTwin := hkey
    rw [merge_cons, merge_cons]
    exact ih (alike_insert key hentry h)

/-! ### The columns of a spread -/

end Shape

/-- The entry in a row that is itself missing or not. -/
def Entry.within (missing : Bool) : Entry → Entry
  | .typed type nullable => .typed type (missing || nullable)
  | .failed diagnosis => .failed diagnosis

theorem Entry.alike_within {missing other : Bool} {entry twin : Entry}
    (hmissing : tolerance.nullable missing other) (h : entry.Alike tolerance twin) :
    (entry.within missing).Alike tolerance (twin.within other) := by
  cases entry with
  | typed type nullable =>
    cases twin with
    | typed otherType otherNullable => exact ⟨h.1, tolerance.nullable_or hmissing h.2⟩
    | failed diagnosis => exact h.elim
  | failed diagnosis =>
    cases twin with
    | typed otherType otherNullable => exact h.elim
    | failed other => exact h

namespace Shape

/-- The entries of a row that is itself missing or not. -/
def within (missing : Bool) (shape : Shape) : Shape :=
  shape.map fun field => (field.1, field.2.within missing)

theorem columns_eq_within (embedded : Embedded) :
    embedded.columns = within embedded.nullable embedded.child := by
  obtain ⟨resolution, cardinality, nullable, child⟩ := embedded
  cases nullable with
  | true =>
    show Shape.nullable child = within true child
    unfold Shape.nullable within
    refine List.map_congr_left ?_
    intro field _
    cases field.2 <;> rfl
  | false =>
    show child = within false child
    have hsame : ∀ field : String × Entry, (field.1, field.2.within false) = field := by
      intro field
      obtain ⟨key, entry⟩ := field
      cases entry <;> rfl
    simp [within, hsame]

theorem alike_within {missing other : Bool} {shape others : Shape}
    (hmissing : tolerance.nullable missing other) (h : Alike tolerance shape others) :
    Alike tolerance (within missing shape) (within other others) := by
  rw [alike_iff_forall₂] at *
  unfold within
  rw [List.forall₂_map_left_iff, List.forall₂_map_right_iff]
  refine h.imp ?_
  intro field twin hfield
  exact ⟨hfield.1, Entry.alike_within hmissing hfield.2⟩

end Shape

/-! ### Nothing tolerated -/

/-- Shapes that have the same nullability everywhere, whatever is tolerated of diagnoses. -/
def Tolerance.ofDiagnosis (diagnosis : Diagnosis → Diagnosis → Prop)
    (hrefl : ∀ d, diagnosis d d) : Tolerance where
  nullable := Eq
  diagnosis := diagnosis
  nullable_refl := fun _ => rfl
  nullable_or := by
    intro a b c d hab hcd
    rw [hab, hcd]
  nullable_and := by
    intro a b c d hab hcd
    rw [hab, hcd]
  diagnosis_refl := hrefl

/-- Shapes that may not differ at all. -/
def Tolerance.none : Tolerance := .ofDiagnosis Eq fun _ => rfl

mutual

theorem ValueType.eq_of_alike :
    ∀ type other : ValueType, type.Alike .none other → type = other
  | .array element, other, h => by
    cases other with
    | array twin => rw [element.eq_of_alike twin h]
    | _ => exact h
  | .object fields, other, h => by
    cases other with
    | object twins => rw [Shape.eq_of_alike fields twins h]
    | _ => exact h
  | .number, _, h | .string, _, h | .boolean, _, h | .json, _, h | .record, _, h | .void, _, h
  | .unknown, _, h | .enumeration _, _, h => h

theorem Entry.eq_of_alike : ∀ entry other : Entry, entry.Alike .none other → entry = other
  | .typed type nullable, .typed other otherNullable, h => by
    rw [type.eq_of_alike other h.1, show nullable = otherNullable from h.2]
  | .failed diagnosis, .failed other, h => congrArg Entry.failed h

theorem Shape.eq_of_alike :
    ∀ fields others : List (String × Entry), Shape.Alike .none fields others → fields = others
  | [], [], _ => rfl
  | (key, entry) :: rest, (otherKey, other) :: others, h => by
    rw [h.1, entry.eq_of_alike other h.2.1, Shape.eq_of_alike rest others h.2.2]

end

end GatewayQuery
