/-
What attributes say.

Reading the attributes of a kind checks one entry after the other and keeps each key with its
string.  What it gives when nothing is refused is described here without the checks: the entries
that are written, those of all attributes of the kind together and in order.  Later entries override
earlier ones, so of the entries with one key the last tells its string, whichever attribute it
stands in.
-/
import GatewayQuery.Record.Attributes
import Mathlib.Data.List.Forall2

namespace GatewayQuery.Record

/-! ### Entries as they are written -/

/-- The string of an entry, if it has one. -/
def Entry.text? (entry : Entry) : Option String :=
  match entry.value with
  | some (.text value) => some value
  | _ => none

/-- The entries in parentheses. -/
def Arguments.written : Arguments → List Entry
  | .entries given => given
  | _ => []

/-- The entries of all attributes with the name, in order. -/
def written (name : String) (attributes : List Attribute) : List Entry :=
  (attributes.filter (·.name == name)).flatMap (·.arguments.written)

/-- The string of the last entry with the key. -/
def lastText? (key : String) (entries : List Entry) : Option String :=
  (entries.filter (·.key == key)).getLast?.bind Entry.text?

/-- Whether an entry has the key. -/
def mentions (key : String) (entries : List Entry) : Bool := entries.any (·.key == key)

/-! ### Steps that may fail -/

theorem bind_eq_ok {α β : Type} {step : Except Fault α} {next : α → Except Fault β} {result : β}
    (h : step >>= next = .ok result) : ∃ value, step = .ok value ∧ next value = .ok result := by
  cases step with
  | error fault => cases h
  | ok value => exact ⟨value, rfl, h⟩

/-- A step that is taken for each item gives a result for each item. -/
theorem forall₂_of_mapM {α β : Type} {step : α → Except Fault β} {items : List α}
    {results : List β} (h : items.mapM step = .ok results) :
    List.Forall₂ (fun item result => step item = .ok result) items results := by
  induction items generalizing results with
  | nil =>
    rw [List.mapM_nil] at h
    cases h
    exact .nil
  | cons item rest ih =>
    rw [List.mapM_cons] at h
    obtain ⟨result, hresult, h⟩ := bind_eq_ok h
    obtain ⟨others, hothers, h⟩ := bind_eq_ok h
    cases h
    exact .cons hresult (ih hothers)

/-- Where every step that succeeds gives what `f` gives, the results are those of `f`. -/
theorem eq_map_of_mapM {α β : Type} {step : α → Except Fault β} {f : α → β}
    (hstep : ∀ item result, step item = .ok result → result = f item) {items : List α}
    {results : List β} (h : items.mapM step = .ok results) : results = items.map f := by
  have hall := (forall₂_of_mapM h).imp hstep
  rw [← List.forall₂_eq_eq_eq, List.forall₂_map_right_iff]
  exact hall.flip.imp fun _ _ => id

/-! ### Settings -/

namespace Vocabulary

variable {vocabulary : Vocabulary}

/-- An entry that passes is kept with its string. -/
theorem setting_ok {entry : Entry} {said : String × Option String}
    (h : vocabulary.setting entry = .ok said) : said = (entry.key, entry.text?) := by
  unfold setting at h
  split at h
  · split at h
    · rename_i value hvalue
      cases h
      rw [Entry.text?, hvalue]
    · cases h
    · cases h
  · split at h
    · split at h
      · cases h
      · rename_i hvalue
        cases h
        rw [Entry.text?, hvalue]
    · cases h

theorem settingsOf_ok {bare : Except Fault Settings} {arguments : Arguments} {settings : Settings}
    (hbare : ∀ said, bare = .ok said → said = [])
    (h : vocabulary.settingsOf bare arguments = .ok settings) :
    settings = arguments.written.map fun entry => (entry.key, entry.text?) := by
  cases arguments with
  | none => exact hbare settings h
  | value => cases h
  | entries entries => exact eq_map_of_mapM (fun _ _ => setting_ok) h

/-- All that is said in attributes that pass. -/
theorem settings_ok {attributes : List Attribute} {settings : Settings}
    (h : vocabulary.settings attributes = .ok settings) :
    settings = (written vocabulary.name attributes).map fun entry => (entry.key, entry.text?) := by
  unfold Vocabulary.settings at h
  cases hparts : (attributes.filter (·.name == vocabulary.name)).mapM fun written =>
      vocabulary.settingsOf (.ok []) written.arguments with
  | error fault =>
    rw [hparts] at h
    cases h
  | ok parts =>
    rw [hparts] at h
    cases h
    have hbare : ∀ said, (.ok [] : Except Fault Settings) = .ok said → said = [] :=
      fun _ hsaid => (Except.ok.inj hsaid).symm
    rw [eq_map_of_mapM (fun _ _ => settingsOf_ok hbare) hparts, written, List.map_flatMap,
      List.flatMap]

end Vocabulary

namespace Settings

variable (entries : List Entry) (key : String)

theorem text?_said :
    text? (entries.map fun entry => (entry.key, entry.text?)) key = lastText? key entries := by
  have hlast : (entries.map fun entry => (entry.key, entry.text?)).reverse.find? (·.1 == key) =
      (entries.filter (·.key == key)).getLast?.map fun entry => (entry.key, entry.text?) := by
    rw [← List.getLast?_filter, List.filter_map, List.getLast?_map]
    rfl
  rw [text?, hlast, lastText?, Option.bind_map]
  rfl

theorem has_said :
    has (entries.map fun entry => (entry.key, entry.text?)) key = mentions key entries := by
  rw [has, List.any_map]
  rfl

end Settings

end GatewayQuery.Record
