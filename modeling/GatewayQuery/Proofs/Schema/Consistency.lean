/-
What passing the check is worth.

The check walks the schema in the order of declaration and stops at the first fault, so it passes
exactly if there is no fault anywhere.  Each step of the walk is asked for the faults that it does
not find: of a key, of a relation behind those already seen, of all the relations behind them.

The invariant of the walk is the list of relations behind it.  A relation repeats a name if it has
the name of one of these, and that no name is repeated by any later relation is what makes all names
distinct.
-/
import GatewayQuery.Proofs.Schema.Keys
import GatewayQuery.Schema.Consistency

namespace GatewayQuery.Schema

variable {schema : Schema} {relation : Relation} {earlier : List Relation}

/-- A key without a fault is a consistent one. -/
theorem keyFault?_eq_none_iff {key : ForeignKey} :
    keyFault? relation key = none ↔ ConsistentKey relation key := by
  have hcolumns : (key.columns.find? fun column => (relation.column? column).isNone) = none ↔
      ∀ name ∈ key.columns, ∃ column ∈ relation.columns, column.name = name := by
    simp only [List.find?_eq_none, Option.isNone_iff_eq_none, Relation.column?_eq_none_iff,
      not_not]
  unfold keyFault?
  by_cases hlength : key.columns.length = key.referencedColumns.length
  · rw [if_neg (not_not.mpr hlength), Option.map_eq_none_iff, hcolumns]
    exact ⟨fun hknown => ⟨hlength, hknown⟩, fun h => h.known⟩
  · rw [if_pos hlength]
    exact ⟨fun h => (nomatch h), fun h => absurd h.sameLength hlength⟩

/-- A relation without a fault has a name of its own and consistent keys. -/
theorem relationFault?_eq_none_iff :
    relationFault? earlier relation = none ↔
      relation.name ∉ earlier.map (·.name) ∧
        ∀ key ∈ relation.keys, ConsistentKey relation key := by
  have htaken : earlier.any (·.name == relation.name) = true ↔
      relation.name ∈ earlier.map (·.name) := by
    simp
  unfold relationFault?
  by_cases hname : relation.name ∈ earlier.map (·.name)
  · rw [if_pos (htaken.mpr hname)]
    exact ⟨fun h => (nomatch h), fun h => absurd hname h.1⟩
  · rw [if_neg (mt htaken.mp hname), List.findSome?_eq_none_iff]
    simp only [keyFault?_eq_none_iff, hname, not_false_iff, true_and]

/-- The walk finds nothing behind some relations if their names go on being distinct and all keys
that follow are consistent. -/
theorem firstFault?_eq_none_iff {relations : List Relation}
    (hearlier : (earlier.map (·.name)).Nodup) :
    firstFault? earlier relations = none ↔
      ((earlier ++ relations).map (·.name)).Nodup ∧
        ∀ relation ∈ relations, ∀ key ∈ relation.keys, ConsistentKey relation key := by
  induction relations generalizing earlier with
  | nil => simpa [firstFault?] using hearlier
  | cons relation rest ih =>
    rw [firstFault?, Option.or_eq_none_iff, relationFault?_eq_none_iff, List.forall_mem_cons]
    have hsnoc : ((earlier ++ [relation]).map (·.name)).Nodup ↔
        relation.name ∉ earlier.map (·.name) := by
      rw [List.map_append, List.map_singleton, ← List.concat_eq_append, List.nodup_concat]
      exact and_iff_left hearlier
    have hsplit : earlier ++ relation :: rest = (earlier ++ [relation]) ++ rest := by simp
    constructor
    · intro h
      obtain ⟨⟨hname, hkeys⟩, hrest⟩ := h
      obtain ⟨hdistinct, hothers⟩ := (ih (hsnoc.mpr hname)).mp hrest
      exact ⟨hsplit ▸ hdistinct, hkeys, hothers⟩
    · intro h
      obtain ⟨hdistinct, hkeys, hothers⟩ := h
      rw [hsplit] at hdistinct
      have hname : ((earlier ++ [relation]).map (·.name)).Nodup := by
        rw [List.map_append] at hdistinct
        exact hdistinct.of_append_left
      exact ⟨⟨hsnoc.mp hname, hkeys⟩, (ih hname).mpr ⟨hdistinct, hothers⟩⟩

/-- The check passes exactly the consistent schemas. -/
theorem check_eq_ok_iff : schema.check = .ok () ↔ schema.Consistent := by
  have hwalk : firstFault? [] schema.relations = none ↔
      (schema.relations.map (·.name)).Nodup ∧
        ∀ relation ∈ schema.relations, ∀ key ∈ relation.keys, ConsistentKey relation key :=
    firstFault?_eq_none_iff List.nodup_nil
  unfold check
  constructor
  · intro h
    cases hfault : firstFault? [] schema.relations with
    | some fault =>
      rw [hfault] at h
      cases h
    | none =>
      obtain ⟨hdistinct, hkeys⟩ := hwalk.mp hfault
      exact ⟨hdistinct, hkeys⟩
  · intro h
    rw [hwalk.mpr ⟨h.distinct, h.keys⟩]

end GatewayQuery.Schema
