/-
When an embedded row may be missing.

A key that is travelled forward leads to one row, and the row may be missing if one of the columns
that own the key may be null.  What may be null is looked up: the relation by its name, and in it
each column of the key.  A look-up that finds nothing counts as null, which would make a row
optional that is not.

In a schema that passes the check this never happens.  However the key was chosen, a resolution that
travels forward starts from a relation that declares the key; names being distinct, this is the
relation that the look-up finds; and a consistent key has no columns but those of its relation.
-/
import GatewayQuery.Proofs.Resolution.Soundness
import GatewayQuery.Proofs.Schema.Consistency

namespace GatewayQuery

namespace Relation

variable {relation : Relation} {key : ForeignKey}

/-- The columns that own a key, as the relation declares them: of each name the first. -/
def owning (relation : Relation) (key : ForeignKey) : List Column :=
  key.columns.filterMap relation.column?

theorem column?_of_known {name : String} (h : ∃ column ∈ relation.columns, column.name = name) :
    ∃ column, relation.column? name = some column ∧ column.name = name := by
  cases hfound : relation.column? name with
  | none => exact absurd h (column?_eq_none_iff.mp hfound)
  | some column => exact ⟨column, rfl, by simpa using List.find?_some hfound⟩

/-- The columns of a consistent key are all there. -/
theorem names_owning (h : Schema.ConsistentKey relation key) :
    (relation.owning key).map (·.name) = key.columns := by
  have hknown := h.known
  unfold owning
  generalize key.columns = names at hknown ⊢
  induction names with
  | nil => rfl
  | cons name rest ih =>
    rw [List.forall_mem_cons] at hknown
    obtain ⟨column, hfound, hname⟩ := column?_of_known hknown.1
    rw [List.filterMap_cons_some hfound, List.map_cons, hname, ih hknown.2]

/-- An owning column is one of the relation, and the one that its name means. -/
theorem column?_of_mem_owning {column : Column} (h : column ∈ relation.owning key) :
    relation.column? column.name = some column := by
  obtain ⟨name, -, hfound⟩ := List.mem_filterMap.mp h
  have hname : column.name = name := by simpa using List.find?_some hfound
  rw [hname, hfound]

/-- If all columns of a key are there, nothing is counted as null because it is unknown. -/
theorem any_owning (h : Schema.ConsistentKey relation key) :
    (key.columns.any fun name => ((relation.column? name).map (·.nullable)).getD true) =
      (relation.owning key).any (·.nullable) := by
  rw [← names_owning h, List.any_map, Bool.eq_iff_iff, List.any_eq_true, List.any_eq_true]
  refine exists_congr fun column => and_congr_right fun hmem => ?_
  show ((relation.column? column.name).map (·.nullable)).getD true = true ↔ column.nullable = true
  rw [column?_of_mem_owning hmem]
  rfl

end Relation

namespace Resolution

variable {schema : Schema} {resolution : Resolution}

/-- A key travelled forward leads to one row, and the columns of its owner say whether it may be
missing. -/
theorem cardinality_forward {owner : Relation} (hforward : resolution.direction = .forward)
    (howner : schema.relation? resolution.source = some owner)
    (hkey : Schema.ConsistentKey owner resolution.key) (innerJoin : Bool) :
    resolution.cardinality (.of schema) innerJoin =
      (.one, (owner.owning resolution.key).any (·.nullable) && !innerJoin) := by
  unfold cardinality
  rw [hforward, Schema.Index.relation?_of, howner]
  show (Cardinality.one, (resolution.key.columns.any fun name =>
    ((owner.column? name).map (·.nullable)).getD true) && !innerJoin) = _
  rw [Relation.any_owning hkey]

end Resolution

open Resolution

variable {schema : Schema} {current : String} {field : Select.Field} {resolution : Resolution}

/-- **A key travelled forward is owned by columns that are there.**  The relation that an embedding
starts from is found and declares the key, all columns of the key are among its columns, and the row
may be missing exactly if one of them may be null and the join is not an inner one. -/
theorem forward_nullable_iff (hcheck : schema.check = .ok ())
    (hresolves : resolve (.of schema) current field = .ok resolution)
    (hforward : resolution.direction = .forward) :
    ∃ owner ∈ schema.relations,
      Schema.Index.relation? (.of schema) resolution.source = some owner ∧
      owner.name = resolution.source ∧ resolution.key ∈ owner.keys ∧
      (owner.owning resolution.key).map (·.name) = resolution.key.columns ∧
      ∀ innerJoin, ∃ nullable,
        resolution.cardinality (.of schema) innerJoin = (.one, nullable) ∧
          (nullable = true ↔
            innerJoin = false ∧
              ∃ column ∈ owner.owning resolution.key, column.nullable = true) := by
  have hconsistent := Schema.check_eq_ok_iff.mp hcheck
  have hsound := resolution_sound hresolves
  obtain ⟨⟨owner, hmem, hname, hkey⟩, -⟩ := hsound.forward hforward
  have hfound : schema.relation? resolution.source = some owner :=
    (Schema.relation?_eq_some_iff hconsistent.distinct).mpr
      ⟨hmem, hname.trans hsound.source.symm⟩
  have hkeys := hconsistent.keys owner hmem resolution.key hkey
  refine ⟨owner, hmem, (Schema.Index.relation?_of schema _).trans hfound,
    Schema.name_of_relation? hfound, hkey, Relation.names_owning hkeys, ?_⟩
  intro innerJoin
  refine ⟨_, cardinality_forward hforward hfound hkeys innerJoin, ?_⟩
  rw [Bool.and_eq_true, List.any_eq_true, Bool.not_eq_true', and_comm]

/-- Bookings of a room, on a day that may be open. -/
def Relation.bookings : Relation :=
  ⟨"bookings", .table, [⟨"room", "int8", false⟩, ⟨"day", "date", true⟩],
    [⟨"bookings_room_fkey", ["room", "day"], "rooms", ["number", "day"], false⟩]⟩

def Schema.hotel : Schema where
  relations := [
    ⟨"rooms", .table, [⟨"number", "int8", false⟩, ⟨"day", "date", false⟩], []⟩, .bookings]
  enums := []

/-- The room of a booking is found by the name of its key, and may be missing because the day may,
unless the join is an inner one. -/
theorem forward_nullable_bookings :
    Schema.hotel.check = .ok () ∧
      ∃ resolution,
        resolve (.of .hotel) "bookings" (.embedding "bookings_room_fkey" none none false) =
          .ok resolution ∧
        resolution.direction = .forward ∧
        (Relation.bookings.owning resolution.key).map (·.name) = ["room", "day"] ∧
        resolution.cardinality (.of .hotel) false = (.one, true) ∧
        resolution.cardinality (.of .hotel) true = (.one, false) := by
  have hcheck : Schema.hotel.check = .ok () := rfl
  have hresolves :
      resolve (.of .hotel) "bookings" (.embedding "bookings_room_fkey" none none false) =
        .ok ⟨⟨"bookings_room_fkey", ["room", "day"], "rooms", ["number", "day"], false⟩, .forward,
          "bookings", "rooms", .byName⟩ := rfl
  obtain ⟨owner, -, hfound, -, -, hnames, hnullable⟩ := forward_nullable_iff hcheck hresolves rfl
  obtain rfl : Relation.bookings = owner := Option.some.inj hfound
  obtain ⟨left, hleft, hmissing⟩ := hnullable false
  obtain ⟨inner, hinner, hpresent⟩ := hnullable true
  have hday : left = true := hmissing.mpr ⟨rfl, ⟨"day", "date", true⟩, by decide, rfl⟩
  have hboth : inner = false := by
    rw [← Bool.not_eq_true, hpresent]
    exact fun h => (nomatch h.1)
  exact ⟨hcheck, _, hresolves, rfl, hnames, hday ▸ hleft, hboth ▸ hinner⟩

end GatewayQuery
