/-
Which fault a schema is refused for.

A schema may have many faults at once.  They are described here one by one, each by what is wrong
and by its place: the position of a relation, of a key of that relation, of a column of that key, as
far down as the fault lies.  Places are compared lexicographically, so the order is the one of
declaration, and what is wrong with a thing as a whole comes before what is wrong with a part of it:
a name that is taken before the keys of the relation, a wrong number of columns before the columns.

The check reports the earliest of them.  Its three loops are one argument: where each part in turn
is searched for its earliest fault, and the search stops with the first part that has one, what is
found is the earliest fault of all the parts.
-/
import GatewayQuery.Proofs.Schema.Consistency
import Mathlib.Order.Defs.LinearOrder
import Mathlib.Data.List.Lex

namespace GatewayQuery.Schema

/-! ### Faults and their places -/

/-- What is wrong with a key of a relation, and with which of its columns. -/
inductive KeyFault (relation : Relation) (key : ForeignKey) : List Nat → Inconsistency → Prop
  | count (hcount : key.columns.length ≠ key.referencedColumns.length) :
      KeyFault relation key [] (.columnCount key.name)
  | column {position : Nat} {name : String} (hname : key.columns[position]? = some name)
      (hunknown : ¬∃ column ∈ relation.columns, column.name = name) :
      KeyFault relation key [position] (.unknownColumn relation.name key.name name)

/-- What is wrong with a relation that stands behind others, and with which of its keys. -/
inductive RelationFault (earlier : List Relation) (relation : Relation) :
    List Nat → Inconsistency → Prop
  | name (htaken : ∃ other ∈ earlier, other.name = relation.name) :
      RelationFault earlier relation [] (.duplicateRelation relation.name)
  | key {position : Nat} {key : ForeignKey} {place : List Nat} {fault : Inconsistency}
      (hkey : relation.keys[position]? = some key) (hfault : KeyFault relation key place fault) :
      RelationFault earlier relation (position :: place) fault

/-- What is wrong with a schema, and where. -/
inductive FaultAt (schema : Schema) : List Nat → Inconsistency → Prop
  | relation {position : Nat} {relation : Relation} {place : List Nat} {fault : Inconsistency}
      (hrelation : schema.relations[position]? = some relation)
      (hfault : RelationFault (schema.relations.take position) relation place fault) :
      FaultAt schema (position :: place) fault

/-- A place tells what is wrong there. -/
theorem KeyFault.unique {relation : Relation} {key : ForeignKey} {place : List Nat}
    {fault other : Inconsistency} (h : KeyFault relation key place fault)
    (hother : KeyFault relation key place other) : fault = other := by
  cases h with
  | count => cases hother with | count => rfl
  | column hname =>
    cases hother with
    | column hotherName => rw [Option.some.inj (hname.symm.trans hotherName)]

theorem RelationFault.unique {earlier : List Relation} {relation : Relation} {place : List Nat}
    {fault other : Inconsistency} (h : RelationFault earlier relation place fault)
    (hother : RelationFault earlier relation place other) : fault = other := by
  cases h with
  | name => cases hother with | name => rfl
  | key hkey hfault =>
    cases hother with
    | key hotherKey hotherFault =>
      obtain rfl := Option.some.inj (hkey.symm.trans hotherKey)
      exact hfault.unique hotherFault

theorem FaultAt.unique {schema : Schema} {place : List Nat} {fault other : Inconsistency}
    (h : FaultAt schema place fault) (hother : FaultAt schema place other) : fault = other := by
  cases h with
  | relation hrelation hfault =>
    cases hother with
    | relation hotherRelation hotherFault =>
      obtain rfl := Option.some.inj (hrelation.symm.trans hotherRelation)
      exact hfault.unique hotherFault

/-! ### The earliest one -/

/-- What a search for the earliest fault finds. -/
def Earliest (faults : List Nat → Inconsistency → Prop) : Option Inconsistency → Prop
  | none => ∀ place fault, ¬faults place fault
  | some found => ∃ place, faults place found ∧ ∀ other fault, faults other fault → ¬other < place

theorem Earliest.congr {faults others : List Nat → Inconsistency → Prop}
    {found : Option Inconsistency} (h : Earliest faults found)
    (hsame : ∀ place fault, others place fault ↔ faults place fault) : Earliest others found := by
  have hothers : others = faults := funext fun place => funext fun fault =>
    propext (hsame place fault)
  rw [hothers]
  exact h

/-- The faults of parts that stand one behind the other, each at a place that begins with the
position of its part. -/
def InParts (faults : Nat → List Nat → Inconsistency → Prop) (place : List Nat)
    (fault : Inconsistency) : Prop :=
  ∃ position inner, place = position :: inner ∧ faults position inner fault

/-- The first part is searched, and the parts behind it unless it has a fault. -/
theorem Earliest.or {faults : Nat → List Nat → Inconsistency → Prop}
    {first rest : Option Inconsistency} (hfirst : Earliest (faults 0) first)
    (hrest : Earliest (InParts fun position => faults (position + 1)) rest) :
    Earliest (InParts faults) (first.or rest) := by
  cases first with
  | some found =>
    obtain ⟨place, hplace, hleast⟩ := hfirst
    refine ⟨0 :: place, ⟨0, place, rfl, hplace⟩, ?_⟩
    rintro _ fault ⟨position, inner, rfl, hfault⟩ hlt
    rcases List.cons_lt_cons_iff.mp hlt with hposition | ⟨rfl, hbefore⟩
    · exact absurd hposition (Nat.not_lt_zero _)
    · exact hleast inner fault hfault hbefore
  | none =>
    -- The first part has no fault, so a fault lies in a part behind it, one position further on.
    have hbehind : ∀ place fault, InParts faults place fault → ∃ position inner,
        place = (position + 1) :: inner ∧ faults (position + 1) inner fault := by
      rintro place fault ⟨position, inner, hplace, hfault⟩
      cases position with
      | zero => exact absurd hfault (hfirst inner fault)
      | succ position => exact ⟨position, inner, hplace, hfault⟩
    cases rest with
    | none =>
      intro place fault hfault
      obtain ⟨position, inner, -, hinner⟩ := hbehind place fault hfault
      exact hrest _ fault ⟨position, inner, rfl, hinner⟩
    | some found =>
      obtain ⟨_, ⟨position, inner, rfl, hinner⟩, hleast⟩ := hrest
      refine ⟨(position + 1) :: inner, ⟨position + 1, inner, rfl, hinner⟩, ?_⟩
      intro place fault hfault hlt
      obtain ⟨other, otherInner, rfl, hother⟩ := hbehind place fault hfault
      refine hleast _ fault ⟨other, otherInner, rfl, hother⟩ ?_
      simpa [List.cons_lt_cons_iff] using hlt

/-! ### The three loops -/

/-- The columns of a key, behind its counts. -/
theorem earliest_keyFault? (relation : Relation) (key : ForeignKey) :
    Earliest (KeyFault relation key) (keyFault? relation key) := by
  unfold keyFault?
  by_cases hcount : key.columns.length = key.referencedColumns.length
  · rw [if_neg (not_not.mpr hcount)]
    cases hfind : key.columns.find? fun column => (relation.column? column).isNone with
    | none =>
      have hknown := List.find?_eq_none.mp hfind
      simp only [Option.isNone_iff_eq_none, Relation.column?_eq_none_iff] at hknown
      intro place fault hfault
      cases hfault with
      | count hne => exact hne hcount
      | column hname hunknown => exact hknown _ (List.mem_of_getElem? hname) hunknown
    | some name =>
      obtain ⟨hunknown, position, hposition, rfl, hearlier⟩ :=
        List.find?_eq_some_iff_getElem.mp hfind
      simp only [Option.isNone_iff_eq_none, Bool.not_eq_true', ← Bool.not_eq_true,
        Relation.column?_eq_none_iff] at hunknown hearlier
      refine ⟨[position], .column (List.getElem?_eq_getElem hposition) hunknown, ?_⟩
      intro place fault hfault hlt
      cases hfault with
      | count hne => exact hne hcount
      | @column other name hname hother =>
        have hbefore : other < position := by simpa [List.cons_lt_cons_iff] using hlt
        obtain ⟨_, rfl⟩ := List.getElem?_eq_some_iff.mp hname
        exact hearlier other hbefore hother
  · rw [if_pos hcount]
    exact ⟨[], .count hcount, fun _ _ _ => List.not_lt_nil _⟩

/-- The keys of a relation. -/
theorem earliest_keyFaults (relation : Relation) (keys : List ForeignKey) :
    Earliest (InParts fun position place fault =>
        ∃ key, keys[position]? = some key ∧ KeyFault relation key place fault)
      (keys.findSome? (keyFault? relation)) := by
  induction keys with
  | nil =>
    rintro place fault ⟨position, inner, -, key, hkey, -⟩
    cases hkey
  | cons key rest ih =>
    have hstep : (key :: rest).findSome? (keyFault? relation) =
        (keyFault? relation key).or (rest.findSome? (keyFault? relation)) := by
      rw [List.findSome?_cons]
      cases keyFault? relation key <;> rfl
    rw [hstep]
    have hkey := earliest_keyFault? relation key
    exact Earliest.or (by simpa using hkey) ih

theorem earliest_relationFault? (earlier : List Relation) (relation : Relation) :
    Earliest (RelationFault earlier relation) (relationFault? earlier relation) := by
  have htaken : earlier.any (·.name == relation.name) = true ↔
      ∃ other ∈ earlier, other.name = relation.name := by
    simp
  unfold relationFault?
  by_cases hname : ∃ other ∈ earlier, other.name = relation.name
  · rw [if_pos (htaken.mpr hname)]
    exact ⟨[], .name hname, fun _ _ _ => List.not_lt_nil _⟩
  · rw [if_neg (mt htaken.mp hname)]
    refine (earliest_keyFaults relation relation.keys).congr fun place fault => ⟨?_, ?_⟩
    · intro h
      cases h with
      | name htaken => exact absurd htaken hname
      | key hkey hfault => exact ⟨_, _, rfl, _, hkey, hfault⟩
    · rintro ⟨position, inner, rfl, key, hkey, hfault⟩
      exact .key hkey hfault

/-- The relations behind some others. -/
theorem earliest_firstFault? (earlier relations : List Relation) :
    Earliest (InParts fun position place fault => ∃ relation, relations[position]? = some relation ∧
        RelationFault (earlier ++ relations.take position) relation place fault)
      (firstFault? earlier relations) := by
  induction relations generalizing earlier with
  | nil =>
    rintro place fault ⟨position, inner, -, relation, hrelation, -⟩
    cases hrelation
  | cons relation rest ih =>
    have hrelation := earliest_relationFault? earlier relation
    have hrest := ih (earlier ++ [relation])
    rw [firstFault?]
    exact Earliest.or (by simpa using hrelation) (by simpa using hrest)

/-- The walk over a schema finds the earliest of its faults. -/
theorem earliest_fault (schema : Schema) :
    Earliest (FaultAt schema) (firstFault? [] schema.relations) := by
  refine (earliest_firstFault? [] schema.relations).congr fun place fault => ⟨?_, ?_⟩
  · rintro ⟨hrelation, hfault⟩
    exact ⟨_, _, rfl, _, hrelation, hfault⟩
  · rintro ⟨position, inner, rfl, relation, hrelation, hfault⟩
    exact .relation hrelation hfault

/-- **A schema passes the check exactly if it is consistent, and otherwise it is refused for the
earliest of its faults.** -/
theorem check_reports_earliest (schema : Schema) :
    (schema.check = .ok () ↔ schema.Consistent) ∧
    ∀ fault, schema.check = .error fault ↔ ∃ place, FaultAt schema place fault ∧
      ∀ other why, FaultAt schema other why → ¬other < place := by
  refine ⟨check_eq_ok_iff, fun fault => ?_⟩
  have hwalk := earliest_fault schema
  unfold check
  cases hfound : firstFault? [] schema.relations with
  | none =>
    rw [hfound] at hwalk
    refine ⟨fun h => (nomatch h), ?_⟩
    rintro ⟨place, hfault, -⟩
    exact absurd hfault (hwalk place fault)
  | some found =>
    rw [hfound] at hwalk
    obtain ⟨place, hplace, hleast⟩ := hwalk
    constructor
    · intro h
      obtain rfl := Except.error.inj h
      exact ⟨place, hplace, hleast⟩
    · rintro ⟨other, hother, hleastOther⟩
      have hsame : other = place := by
        rcases lt_trichotomy other place with hlt | heq | hlt
        · exact absurd hlt (hleast other fault hother)
        · exact heq
        · exact absurd hlt (hleastOther place found hplace)
      subst hsame
      exact congrArg Except.error (hplace.unique hother)

-- the column of the key is missing too, and the name of its relation is taken again behind it
example : check ⟨[
    ⟨"cities", .table, [], [⟨"cities_fkey", ["country"], "countries", ["id", "code"], false⟩]⟩,
    ⟨"cities", .table, [], []⟩], []⟩ = .error (.columnCount "cities_fkey") := rfl

end GatewayQuery.Schema
