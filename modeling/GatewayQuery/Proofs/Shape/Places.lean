/-
Where the failures of a shape stand.

A failure is found by going down: to a key, into the row nested under it, be it one row or a
list of rows, to a key of that row, and so on until a key holds a failure.  The positions of
these keys tell two failures apart even where rows have a key twice, and going through the
shape in order means that they come out in lexicographic order.  The list of errors is such a
tour: it meets every failure, none twice, in that order.

What it tells of each way is a text, the keys joined by dots, and here something is lost.  A
path that is still empty is taken for the start, so that empty keys at the top leave no dot
behind; a quoted name may be empty.  A path is the joined keys exactly if its first key is not
empty, or if it has no other key.
-/
import GatewayQuery.Shape.Basic

namespace GatewayQuery

/-- A failure: the position of the key that it stands under, in its own row and in each row
around it, the outermost first; these keys; and what is reported. -/
structure Finding where
  place : List Nat
  keys : List String
  diagnosis : Diagnosis

namespace Finding

/-- The finding seen from the row around it. -/
def under (position : Nat) (key : String) (finding : Finding) : Finding :=
  ⟨position :: finding.place, key :: finding.keys, finding.diagnosis⟩

/-- The finding if one more key stood before. -/
def later (finding : Finding) : Finding :=
  { finding with place := finding.place.modifyHead (· + 1) }

/-- The keys with dots between them, those left out that are empty and have only empty ones
before them. -/
def path (finding : Finding) : String := ".".intercalate (finding.keys.dropWhile String.isEmpty)

end Finding

/-- An entry is a failure, or one is found under a key of its nested row. -/
inductive Entry.Fails : Entry → Finding → Prop
  | here (diagnosis : Diagnosis) : Fails (.failed diagnosis) ⟨[], [], diagnosis⟩
  | inside {type : ValueType} {nullable : Bool} {row : Shape} {position : Nat} {key : String}
      {entry : Entry} {finding : Finding} (hrow : type.object? = some row)
      (hkey : row[position]? = some (key, entry)) (hbelow : Fails entry finding) :
      Fails (.typed type nullable) (finding.under position key)

/-- A failure is found under a key of the shape. -/
def Shape.Fails (shape : Shape) (finding : Finding) : Prop :=
  ∃ position key entry below, shape[position]? = some (key, entry) ∧ Entry.Fails entry below ∧
    finding = below.under position key

/-! ### The tour -/

mutual

/-- The findings inside a type. -/
def ValueType.findings : ValueType → List Finding
  | .array element => element.findings
  | .object fields => Shape.findings fields
  | _ => []

def Entry.findings : Entry → List Finding
  | .typed type _ => type.findings
  | .failed diagnosis => [⟨[], [], diagnosis⟩]

def Shape.findings : List (String × Entry) → List Finding
  | [] => []
  | (key, entry) :: rest =>
    entry.findings.map (Finding.under 0 key) ++ (Shape.findings rest).map Finding.later

end

theorem Shape.fails_nil (finding : Finding) : ¬Shape.Fails [] finding := by
  intro h
  obtain ⟨position, key, entry, below, hkey, -, -⟩ := h
  cases hkey

/-- A failure stands under the first key or, one position further, under one of the others. -/
theorem Shape.fails_cons (key : String) (entry : Entry) (rest : Shape) (finding : Finding) :
    Shape.Fails ((key, entry) :: rest) finding ↔
      (∃ below, entry.Fails below ∧ Finding.under 0 key below = finding) ∨
        ∃ other, Shape.Fails rest other ∧ other.later = finding := by
  constructor
  · intro h
    obtain ⟨position, held, found, below, hkey, hfails, rfl⟩ := h
    cases position with
    | zero =>
      cases hkey
      exact .inl ⟨below, hfails, rfl⟩
    | succ position =>
      exact .inr ⟨below.under position held, ⟨position, held, found, below, hkey, hfails, rfl⟩, rfl⟩
  · intro h
    rcases h with ⟨below, hfails, rfl⟩ | ⟨other, hother, rfl⟩
    · exact ⟨0, key, entry, below, rfl, hfails, rfl⟩
    · obtain ⟨position, held, found, below, hkey, hfails, rfl⟩ := hother
      exact ⟨position + 1, held, found, below, hkey, hfails, rfl⟩

theorem Entry.fails_typed {type : ValueType} {nullable : Bool} {finding : Finding} :
    (Entry.typed type nullable).Fails finding ↔
      ∃ row, type.object? = some row ∧ Shape.Fails row finding := by
  constructor
  · intro h
    cases h with
    | inside hrow hkey hbelow => exact ⟨_, hrow, _, _, _, _, hkey, hbelow, rfl⟩
  · intro h
    obtain ⟨row, hrow, position, key, entry, below, hkey, hbelow, rfl⟩ := h
    exact .inside hrow hkey hbelow

mutual

/-- The tour meets the failures and nothing else. -/
theorem ValueType.mem_findings (finding : Finding) :
    ∀ type : ValueType, finding ∈ type.findings ↔
      ∃ row, type.object? = some row ∧ Shape.Fails row finding
  | .array element => by
    rw [ValueType.findings, ValueType.object?]
    exact element.mem_findings finding
  | .object fields => by
    rw [ValueType.findings, ValueType.object?, Shape.mem_findings finding fields]
    simp
  | .number | .string | .boolean | .json | .record | .void | .unknown | .enumeration _ => by
    simp [ValueType.findings, ValueType.object?]

theorem Entry.mem_findings (finding : Finding) :
    ∀ entry : Entry, finding ∈ entry.findings ↔ entry.Fails finding
  | .typed type _ => by
    rw [Entry.findings, Entry.fails_typed]
    exact type.mem_findings finding
  | .failed diagnosis => by
    rw [Entry.findings, List.mem_singleton]
    constructor
    · rintro rfl
      exact .here diagnosis
    · intro h
      cases h
      rfl

theorem Shape.mem_findings (finding : Finding) :
    ∀ fields : List (String × Entry), finding ∈ Shape.findings fields ↔
      Shape.Fails fields finding
  | [] => by
    rw [Shape.findings]
    exact iff_of_false List.not_mem_nil (Shape.fails_nil finding)
  | (key, entry) :: rest => by
    rw [Shape.findings, List.mem_append, List.mem_map, List.mem_map, Shape.fails_cons]
    simp only [Entry.mem_findings _ entry, Shape.mem_findings _ rest]

end

/-! ### Order -/

/-- The first of two findings stands before the second. -/
def Finding.Before (finding other : Finding) : Prop := finding.place < other.place

theorem Finding.before_under {finding other : Finding} (position : Nat) (key : String) :
    (finding.under position key).Before (other.under position key) ↔ finding.Before other := by
  simp [Before, under]

theorem Finding.before_later {finding other : Finding} {position further : Nat}
    {key otherKey : String} :
    (finding.under position key).later.Before (other.under further otherKey).later ↔
      (finding.under position key).Before (other.under further otherKey) := by
  simp [Before, later, under, List.cons_lt_cons_iff]

/-- What stands under the first key stands before all that is found under later ones. -/
theorem Finding.under_before_later {finding other : Finding} {position : Nat}
    {key otherKey : String} :
    (finding.under 0 key).Before (other.under position otherKey).later := by
  simp [Before, later, under, List.cons_lt_cons_iff]

mutual

theorem ValueType.findings_sorted :
    ∀ type : ValueType, type.findings.Pairwise Finding.Before
  | .array element => by
    rw [ValueType.findings]
    exact element.findings_sorted
  | .object fields => by
    rw [ValueType.findings]
    exact Shape.findings_sorted fields
  | .number | .string | .boolean | .json | .record | .void | .unknown | .enumeration _ => by
    simp [ValueType.findings]

theorem Entry.findings_sorted : ∀ entry : Entry, entry.findings.Pairwise Finding.Before
  | .typed type _ => by
    rw [Entry.findings]
    exact type.findings_sorted
  | .failed diagnosis => by simp [Entry.findings]

theorem Shape.findings_sorted :
    ∀ fields : List (String × Entry), (Shape.findings fields).Pairwise Finding.Before
  | [] => by simp [Shape.findings]
  | (key, entry) :: rest => by
    have hunder : ∀ finding ∈ Shape.findings rest,
        ∃ position key below, finding = Finding.under position key below := by
      intro finding hfinding
      obtain ⟨position, key, _, below, -, -, h⟩ := (Shape.mem_findings finding rest).mp hfinding
      exact ⟨position, key, below, h⟩
    rw [Shape.findings, List.pairwise_append, List.pairwise_map, List.pairwise_map]
    refine ⟨?_, ?_, ?_⟩
    · exact entry.findings_sorted.imp fun h => (Finding.before_under 0 key).mpr h
    · refine (Shape.findings_sorted rest).imp_of_mem ?_
      intro finding other hfinding hother hbefore
      obtain ⟨position, held, below, rfl⟩ := hunder finding hfinding
      obtain ⟨further, otherKey, otherBelow, rfl⟩ := hunder other hother
      exact Finding.before_later.mpr hbefore
    · intro finding hfinding other hother
      obtain ⟨below, -, rfl⟩ := List.mem_map.mp hfinding
      obtain ⟨found, hfound, rfl⟩ := List.mem_map.mp hother
      obtain ⟨position, held, otherBelow, rfl⟩ := hunder found hfound
      exact Finding.under_before_later

end

/-! ### Paths -/

/-- A path with more keys below it. -/
def Shape.extendPath (path : String) (keys : List String) : String := keys.foldl Shape.joinPath path

mutual

/-- The errors are the findings, each with its keys joined on the way down. -/
theorem ValueType.errorsAt_eq (path : String) :
    ∀ type : ValueType, type.errorsAt path =
      type.findings.map fun finding => (Shape.extendPath path finding.keys, finding.diagnosis)
  | .array element => by
    rw [ValueType.errorsAt, ValueType.findings]
    exact element.errorsAt_eq path
  | .object fields => by
    rw [ValueType.errorsAt, ValueType.findings]
    exact Shape.errorsBelow_eq path fields
  | .number | .string | .boolean | .json | .record | .void | .unknown | .enumeration _ => by
    simp [ValueType.errorsAt, ValueType.findings]

theorem Entry.errorsAt_eq (path : String) :
    ∀ entry : Entry, entry.errorsAt path =
      entry.findings.map fun finding => (Shape.extendPath path finding.keys, finding.diagnosis)
  | .typed type _ => by
    rw [Entry.errorsAt, Entry.findings]
    exact type.errorsAt_eq path
  | .failed diagnosis => rfl

theorem Shape.errorsBelow_eq (path : String) :
    ∀ fields : List (String × Entry), Shape.errorsBelow path fields =
      (Shape.findings fields).map fun finding =>
        (Shape.extendPath path finding.keys, finding.diagnosis)
  | [] => rfl
  | (key, entry) :: rest => by
    rw [Shape.errorsBelow, Shape.findings, List.map_append, List.map_map, List.map_map,
      entry.errorsAt_eq (Shape.joinPath path key), Shape.errorsBelow_eq path rest]
    rfl

end

namespace Shape

theorem joinPath_of_ne {path : String} (h : path ≠ "") (key : String) :
    joinPath path key = path ++ "." ++ key := by
  rw [joinPath, if_neg (by simpa using h)]

/-- Below a path that is not empty every key comes with a dot. -/
theorem extendPath_of_ne (keys : List String) {path : String} (h : path ≠ "") :
    extendPath path keys = ".".intercalate (path :: keys) := by
  induction keys generalizing path with
  | nil => simp [extendPath]
  | cons key rest ih =>
    have hne : joinPath path key ≠ "" := by
      rw [joinPath_of_ne h]
      simp
    calc extendPath path (key :: rest)
        = extendPath (joinPath path key) rest := rfl
      _ = ".".intercalate ((path ++ "." ++ key) :: rest) := by rw [ih hne, joinPath_of_ne h]
      _ = ".".intercalate (path :: key :: rest) := by
        rw [String.intercalate_cons_append, String.intercalate_cons_cons]

/-- At the top the keys come with dots from the first one on that is not empty. -/
theorem extendPath_empty (keys : List String) :
    extendPath "" keys = ".".intercalate (keys.dropWhile String.isEmpty) := by
  induction keys with
  | nil => simp [extendPath]
  | cons key rest ih =>
    have hstep : extendPath "" (key :: rest) = extendPath key rest := rfl
    by_cases hempty : key = ""
    · subst hempty
      rw [hstep, ih, List.dropWhile_cons_of_pos (by simp)]
    · rw [hstep, extendPath_of_ne rest hempty, List.dropWhile_cons_of_neg (by simpa using hempty)]

theorem length_intercalate_dropWhile (keys : List String) :
    (".".intercalate (keys.dropWhile String.isEmpty)).length ≤ (".".intercalate keys).length := by
  induction keys with
  | nil => simp
  | cons key rest ih =>
    by_cases hempty : key = ""
    · subst hempty
      rw [List.dropWhile_cons_of_pos (by simp)]
      refine Nat.le_trans ih ?_
      cases rest with
      | nil => simp
      | cons next more =>
        rw [String.intercalate_cons_cons, String.length_append, String.length_append]
        omega
    · have hkept : (key :: rest).dropWhile String.isEmpty = key :: rest :=
        List.dropWhile_cons_of_neg (by simpa using hempty)
      exact Nat.le_of_eq (by rw [hkept])

end Shape

/-- The path is the joined keys unless an empty key is left out in front of another one. -/
theorem Finding.path_eq_iff (finding : Finding) :
    finding.path = ".".intercalate finding.keys ↔
      finding.keys.head? ≠ some "" ∨ finding.keys = [""] := by
  unfold path
  cases finding.keys with
  | nil => simp
  | cons key rest =>
    by_cases hempty : key = ""
    · subst hempty
      cases rest with
      | nil => simp
      | cons next more =>
        refine iff_of_false ?_ (by simp)
        intro hsame
        -- a dot for the empty key would make the path longer than it can be
        have hlength := congrArg String.length hsame
        have hbound := Shape.length_intercalate_dropWhile (next :: more)
        rw [List.dropWhile_cons_of_pos (by simp), String.intercalate_cons_cons,
          String.length_append, String.length_append] at hlength
        have hdot : ".".length = 1 := rfl
        omega
    · rw [List.dropWhile_cons_of_neg (by simpa using hempty)]
      simp [hempty]

/-- **The errors of a shape are its failures in order, each once.**  The path of one is its keys
with dots between them, except that empty keys at the top are left out. -/
theorem Shape.errors_tour (shape : Shape) :
    ∃ findings : List Finding,
      findings.Pairwise Finding.Before ∧ (∀ finding, finding ∈ findings ↔ shape.Fails finding) ∧
        shape.errors = findings.map (fun finding => (finding.path, finding.diagnosis)) ∧
        ∀ finding : Finding, finding.path = ".".intercalate finding.keys ↔
          finding.keys.head? ≠ some "" ∨ finding.keys = [""] := by
  refine ⟨findings shape, findings_sorted shape, fun finding => mem_findings finding shape, ?_,
    Finding.path_eq_iff⟩
  have hpath : ∀ finding : Finding, extendPath "" finding.keys = finding.path :=
    fun finding => extendPath_empty finding.keys
  rw [errors, errorsBelow_eq]
  simp only [hpath]

/-- A failure and one below an empty key have the same path. -/
example (diagnosis other : Diagnosis) :
    Shape.errors [("id", .failed diagnosis), ("", .typed (.object [("id", .failed other)]) false)] =
      [("id", diagnosis), ("id", other)] := rfl

end GatewayQuery
