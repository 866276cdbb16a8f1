/-
A snapshot holds the schema it was taken of.

The writer names every field of every record, so no default of the reader is ever called upon; what
has to be right is that both sides agree on each key, that no two fields of a record share one, and
that a value of each field is taken back by the reader of that field.  Record by record this is one
walk along the members, and the schema is the outermost record.

Whether the schema is consistent plays no part in reading.  It is asked afterwards, of the schema
that was written.
-/
import GatewayQuery.Proofs.Json.Reading
import GatewayQuery.Schema.Snapshot

namespace GatewayQuery

open Json.Read (Slot Takes Fills Restores restores_record restores_string restores_bool
  restores_choice)

/-! ### Fields -/

theorem RelationKind.ofName?_name (kind : RelationKind) : ofName? kind.name = some kind := by
  cases kind <;> rfl

namespace Snapshot

section Fields

variable {σ α : Type} {slots : List (Slot σ)} {key : String} {get : σ → Option α}
  {set : σ → α → σ} {reader : Json.Reader α} {write : α → Json}

theorem takes_slot {part : σ} {cs rest : List Char} {value : α} (h : Takes reader cs value rest) :
    Takes ((slot key get set reader).fill part) cs (set part value) rest := by
  obtain ⟨_, hfound, hleft⟩ := h
  unfold Takes
  simp only [slot, hfound]
  exact ⟨_, rfl, hleft⟩

/-- The next member goes into the field of its key, which is still open. -/
theorem fills_slot {part last : σ} {members : List (String × Json)} (value : α)
    (hvalue : Restores reader write)
    (hknown : slots.find? (fun slot => slot.key == key) = some (slot key get set reader))
    (hopen : (get part).isSome = false) (hothers : Fills slots (set part value) members last) :
    Fills slots part ((key, write value) :: members) last :=
  .next (slot key get set reader) hknown hopen (fun rest => takes_slot (hvalue.takes value rest))
    hothers

end Fields

/-! ### Records -/

theorem restores_strings : Restores (Json.Read.list Json.Read.string) strings :=
  restores_string.list

theorem restores_column : Restores readColumn column := by
  refine restores_record fun value =>
    ⟨⟨some value.name, some value.dataType, some value.nullable⟩, ?_, rfl⟩
  refine fills_slot value.name restores_string rfl rfl ?_
  refine fills_slot value.dataType restores_string rfl rfl ?_
  refine fills_slot value.nullable restores_bool rfl rfl ?_
  exact .done _

theorem restores_foreignKey : Restores readKey foreignKey := by
  refine restores_record fun value =>
    ⟨⟨some value.name, some value.columns, some value.referenced, some value.referencedColumns,
      some value.oneToOne⟩, ?_, rfl⟩
  refine fills_slot value.name restores_string rfl rfl ?_
  refine fills_slot value.columns restores_strings rfl rfl ?_
  refine fills_slot value.referenced restores_string rfl rfl ?_
  refine fills_slot value.referencedColumns restores_strings rfl rfl ?_
  refine fills_slot value.oneToOne restores_bool rfl rfl ?_
  exact .done _

theorem restores_relation : Restores readRelation relation := by
  refine restores_record fun value =>
    ⟨⟨some value.name, some value.kind, some value.columns, some value.keys⟩, ?_, rfl⟩
  refine fills_slot value.name restores_string rfl rfl ?_
  refine fills_slot value.kind (restores_choice RelationKind.ofName?_name) rfl rfl ?_
  refine fills_slot value.columns restores_column.list rfl rfl ?_
  refine fills_slot value.keys restores_foreignKey.list rfl rfl ?_
  exact .done _

theorem restores_enumType : Restores readEnum enumType := by
  refine restores_record fun value => ⟨⟨some value.name, some value.labels⟩, ?_, rfl⟩
  refine fills_slot value.name restores_string rfl rfl ?_
  refine fills_slot value.labels restores_strings rfl rfl ?_
  exact .done _

theorem restores_schema : Restores readSchema Schema.toJson := by
  refine restores_record fun value => ⟨⟨some value.relations, some value.enums⟩, ?_, rfl⟩
  refine fills_slot value.relations restores_relation.list rfl rfl ?_
  refine fills_slot value.enums restores_enumType.list rfl rfl ?_
  exact .done _

end Snapshot

/-! ### The snapshot -/

namespace Schema

theorem ofText?_toText (schema : Schema) : ofText? schema.toText = .ok schema :=
  Json.Read.whole_print Snapshot.restores_schema schema

/-- Loading the snapshot of a schema gives the schema back when it is consistent, and otherwise the
inconsistency that the check finds in it; the text itself is never at fault. -/
theorem load_toText (schema : Schema) :
    load schema.toText =
      match schema.check with
      | .ok () => .ok schema
      | .error fault => .error (.inconsistent fault) := by
  simp only [load, ofText?_toText]
  cases schema.check with
  | ok _ => rfl
  | error fault => rfl

end Schema

end GatewayQuery
