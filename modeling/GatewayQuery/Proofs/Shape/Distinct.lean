/-
No row names a key twice.

A shape that was merged from anything has each key once, but a row may hold other rows, as objects
and as lists of objects, and each of them is a shape of its own.  Every one of these comes from a
level of the expression, and every level begins with the empty shape, so the argument is made once
for a level and carried down by the nodes: what a node writes under a key is a type without rows, a
failure, or a row that was a level itself.  Splicing such a row into its parent, nullable or not,
leaves the rows inside of it as they are.

In JSON each row is an object with the same keys.  The other objects of the text, the types around
a row and the failures, have keys of their own, and those are all different.
-/
import GatewayQuery.Proofs.Shape.Diagnoses
import GatewayQuery.Proofs.Shape.History
import GatewayQuery.Proofs.Shape.Parallel
import GatewayQuery.Shape.Json

namespace GatewayQuery

open Schema (Index)
open Select (Field Node)

mutual

/-- Each row inside of the type has every key once. -/
def ValueType.Distinct : ValueType → Prop
  | .array element => element.Distinct
  | .object fields => (Keyed.keys fields).Nodup ∧ Shape.EntriesDistinct fields
  | _ => True

def Entry.Distinct : Entry → Prop
  | .typed type _ => type.Distinct
  | .failed _ => True

/-- Each row below the keys has every key once. -/
def Shape.EntriesDistinct : List (String × Entry) → Prop
  | [] => True
  | (_, entry) :: rest => entry.Distinct ∧ Shape.EntriesDistinct rest

end

/-- A type without rows repeats no key. -/
theorem ValueType.distinct_of_rowless : ∀ type : ValueType, type.Rowless → type.Distinct
  | .array element, h => by
    rw [ValueType.Distinct]
    exact element.distinct_of_rowless h
  | .object _, h => h.elim
  | .number, _ | .string, _ | .boolean, _ | .json, _ | .record, _ | .void, _ | .unknown, _
  | .enumeration _, _ => trivial

theorem Entry.Distinct.nullable {entry : Entry} (h : entry.Distinct) : entry.nullable.Distinct := by
  cases entry with
  | typed type nullable => exact h
  | failed diagnosis => trivial

namespace Shape

/-- The row and each row inside of it has every key once. -/
def Distinct (shape : Shape) : Prop := (ValueType.object shape).Distinct

theorem entriesDistinct_iff_all {shape : Shape} :
    EntriesDistinct shape ↔ All Entry.Distinct shape := by
  induction shape with
  | nil => exact iff_of_true trivial all_nil
  | cons field rest ih => rw [EntriesDistinct, ih, all_cons]

theorem distinct_iff {shape : Shape} :
    shape.Distinct ↔ shape.keys.Nodup ∧ All Entry.Distinct shape := by
  rw [← entriesDistinct_iff_all]
  exact Iff.rfl

/-! ### What nodes write -/

theorem distinct_columnEntry (schema : Schema) (column : Column) :
    (columnEntry schema column).Distinct :=
  (schema.valueType column.dataType).distinct_of_rowless (rowless_valueType schema column.dataType)

theorem distinct_leafEntry (schema : Schema) (relation : Relation) (field : Field) :
    (leafEntry schema relation field).Distinct := by
  unfold leafEntry
  rcases leafType_cases schema relation field with
    ⟨-, type, nullable, htype, hrowless⟩ | ⟨-, herror⟩
  · rw [htype]
    exact type.distinct_of_rowless hrowless
  · rw [herror]
    trivial

theorem distinct_entry {embedded : Embedded} (h : embedded.child.Distinct) :
    embedded.entry.Distinct := by
  unfold Embedded.entry
  cases embedded.cardinality <;> exact h

/-- No node writes a row that names a key twice: an embedded row is a level of its own. -/
theorem kept_distinct (index : Index) : Kept index Entry.Distinct where
  column := distinct_columnEntry index.schema
  leaf := distinct_leafEntry index.schema
  unresolved _ _ _ _ _ := trivial
  duplicateEmbedding _ _ := trivial
  illegalSpread _ _ := trivial
  row _ hnodup hall := distinct_entry (distinct_iff.mpr ⟨hnodup, hall⟩)
  nullable _ := Entry.Distinct.nullable

theorem distinct_build {index : Index} {root : String} {nodes : List Node} {shape : Shape}
    (h : build index root nodes = .ok shape) : shape.Distinct :=
  distinct_iff.mpr ((kept_distinct index).build h)

end Shape

/-! ### As JSON -/

mutual

/-- No object inside of the value repeats a key. -/
def Json.Distinct : Json → Prop
  | .array items => Json.ItemsDistinct items
  | .object members => (Keyed.keys members).Nodup ∧ Json.MembersDistinct members
  | _ => True

def Json.ItemsDistinct : List Json → Prop
  | [] => True
  | item :: rest => item.Distinct ∧ Json.ItemsDistinct rest

def Json.MembersDistinct : List (String × Json) → Prop
  | [] => True
  | (_, value) :: rest => value.Distinct ∧ Json.MembersDistinct rest

end

theorem Json.itemsDistinct_iff {items : List Json} :
    Json.ItemsDistinct items ↔ ∀ item ∈ items, item.Distinct := by
  induction items with
  | nil => simp [Json.ItemsDistinct]
  | cons item rest ih => simp [Json.ItemsDistinct, ih]

theorem Json.membersDistinct_iff {members : List (String × Json)} :
    Json.MembersDistinct members ↔ ∀ member ∈ members, member.2.Distinct := by
  induction members with
  | nil => simp [Json.MembersDistinct]
  | cons member rest ih => simp [Json.MembersDistinct, ih]

theorem distinct_stringsJson (texts : List String) : (stringsJson texts).Distinct := by
  refine Json.itemsDistinct_iff.mpr fun item hitem => ?_
  obtain ⟨text, -, rfl⟩ := List.mem_map.mp hitem
  trivial

theorem Candidate.distinct_toJson (candidate : Candidate) : candidate.toJson.Distinct :=
  ⟨show ["foreign_key_name", "owner", "columns", "referenced_relation"].Nodup by decide,
    trivial, trivial, distinct_stringsJson _, trivial, trivial⟩

theorem keys_optionalMember (name : String) (text : Option String) :
    (Keyed.keys (optionalMember name text)).Sublist [name] := by
  cases text with
  | none => exact List.nil_sublist _
  | some text => exact List.Sublist.refl _

/-- What there is of a context stands under four keys at most, in one order. -/
theorem Diagnosis.Context.distinct_toJson (context : Context) : context.toJson.Distinct := by
  obtain ⟨relation, target, candidates, hint⟩ := context
  have hcandidates : (Keyed.keys (if candidates.isEmpty then [] else
      [("candidates", Json.array (candidates.map Candidate.toJson))])).Sublist ["candidates"] := by
    split
    · exact List.nil_sublist _
    · exact List.Sublist.refl _
  refine ⟨?_, Json.membersDistinct_iff.mpr ?_⟩
  · rw [Keyed.keys, List.map_append, List.map_append, List.map_append]
    exact ((((keys_optionalMember _ relation).append (keys_optionalMember _ target)).append
      hcandidates).append (keys_optionalMember _ hint)).nodup
      (show ["relation", "target", "candidates", "hint"].Nodup by decide)
  · have hoptional (name : String) (text : Option String) :
        ∀ member ∈ optionalMember name text, member.2.Distinct := by
      cases text <;> simp [optionalMember, Json.Distinct]
    simp only [List.forall_mem_append]
    refine ⟨⟨⟨hoptional _ relation, hoptional _ target⟩, ?_⟩, hoptional _ hint⟩
    split
    · exact List.forall_mem_nil _
    · rw [List.forall_mem_singleton]
      refine Json.itemsDistinct_iff.mpr fun item hitem => ?_
      obtain ⟨candidate, -, rfl⟩ := List.mem_map.mp hitem
      exact candidate.distinct_toJson

theorem Diagnosis.distinct_toJson (diagnosis : Diagnosis) : diagnosis.toJson.Distinct :=
  ⟨show ["kind", "message", "context"].Nodup by decide,
    trivial, trivial, diagnosis.context.distinct_toJson, trivial⟩

theorem ValueType.keys_members (type : ValueType) :
    (Keyed.keys type.members).Sublist ["type", "of"] := by
  cases type <;> simp [ValueType.members, Keyed.keys]

theorem Shape.keys_members (fields : List (String × Entry)) :
    Keyed.keys (Shape.members fields) = Keyed.keys fields := by
  induction fields with
  | nil => rw [Shape.members]; rfl
  | cons field rest ih =>
    obtain ⟨key, entry⟩ := field
    rw [Shape.members]
    exact congrArg (key :: ·) ih

mutual

theorem ValueType.distinct_members :
    ∀ type : ValueType, type.Distinct → Json.MembersDistinct type.members
  | .array element, h => by
    rw [ValueType.members]
    exact ⟨trivial, ⟨(element.keys_members).nodup (by decide), element.distinct_members h⟩, trivial⟩
  | .object fields, h => by
    rw [ValueType.members]
    refine ⟨trivial, ⟨?_, Shape.distinct_members fields h.2⟩, trivial⟩
    rw [Shape.keys_members]
    exact h.1
  | .enumeration labels, _ => by
    rw [ValueType.members]
    exact ⟨trivial, distinct_stringsJson labels, trivial⟩
  | .number, _ | .string, _ | .boolean, _ | .json, _ | .record, _ | .void, _ | .unknown, _ => by
    rw [ValueType.members]
    exact ⟨trivial, trivial⟩

theorem Entry.distinct_toJson : ∀ entry : Entry, entry.Distinct → entry.toJson.Distinct
  | .typed type nullable, h => by
    rw [Entry.toJson]
    refine ⟨?_, Json.membersDistinct_iff.mpr (List.forall_mem_append.mpr
      ⟨Json.membersDistinct_iff.mp (type.distinct_members h), ?_⟩)⟩
    · rw [Keyed.keys, List.map_append]
      exact (type.keys_members.append (List.Sublist.refl ["nullable"])).nodup (by decide)
    · rw [List.forall_mem_singleton]
      trivial
  | .failed diagnosis, _ => by
    rw [Entry.toJson]
    exact ⟨show ["error"].Nodup by decide, diagnosis.distinct_toJson, trivial⟩

theorem Shape.distinct_members :
    ∀ fields : List (String × Entry), Shape.EntriesDistinct fields →
      Json.MembersDistinct (Shape.members fields)
  | [], _ => by
    rw [Shape.members]
    trivial
  | (key, entry) :: rest, h => by
    rw [Shape.members]
    exact ⟨entry.distinct_toJson h.1, Shape.distinct_members rest h.2⟩

end

/-- A shape that has each key once at every depth is written without repeating one. -/
theorem Shape.distinct_toJson {shape : Shape} (h : shape.Distinct) : shape.toJson.Distinct := by
  refine ⟨?_, Shape.distinct_members shape h.2⟩
  rw [Shape.keys_members]
  exact h.1

namespace Shape

/-- **A shape is a map that keeps the order of its first writes.**  Whatever edits made it, its keys
are those that were written, each once and in the order in which they first came; under each is the
entry that was written last, nullable if the values were made so afterwards; and under any other key
is none.  So no row of a shape that was built names a key twice, however deep, and no object of its
JSON does. -/
theorem follows_throughout (schema : Schema) :
    (∀ edits, Follows (Edit.applyAll empty edits) (Edit.recordAll [] edits)) ∧
      (∀ edits key, (Edit.applyAll empty edits).get? key = none ↔
        key ∉ Shape.keys (Edit.recordAll [] edits)) ∧
      (∀ before edit after key entry,
        lastAt key (edit.record []) = some entry →
        key ∉ Shape.keys (Edit.recordAll [] after) →
          (Edit.applyAll empty (before ++ edit :: after)).get? key = some (liftedBy after entry)) ∧
      ∀ root nodes shape, build (.of schema) root nodes = .ok shape →
        shape.Distinct ∧ shape.toJson.Distinct := by
  refine ⟨follows_empty.edits, fun edits key => ?_,
    fun _ _ _ _ _ hedit hafter => get?_of_last_write hedit hafter,
    fun root nodes shape hbuild => ?_⟩
  · rw [(follows_empty.edits edits).held, lastAt_eq_none_iff]
  · exact ⟨distinct_build hbuild, distinct_toJson (distinct_build hbuild)⟩

/-- A key that comes again from another shape keeps its place and takes the later type, which is
nullable once the values are; and neither the row nor the sender inside of it repeats a key. -/
theorem follows_throughout_messages :
    (Edit.applyAll empty
        [.insert "id" (.typed .number false), .insert "name" (.typed .json false),
          .merge [.insert "body" (.typed .string false), .insert "id" (.typed .string false)],
          .nullable, .insert "name" (.typed .string false)]).get? "id" =
        some (.typed .string true) ∧
      ∃ shape, build (.of ⟨[people, messages], []⟩) "messages"
          [.star, .field (.column "id") [],
            .field (.embedding "sender" none none false) [.star, .star]] = .ok shape ∧
        shape.Distinct ∧ shape.toJson.Distinct := by
  obtain ⟨-, -, hlast, hshapes⟩ := follows_throughout ⟨[people, messages], []⟩
  have hbuild : build (.of ⟨[people, messages], []⟩) "messages"
      [.star, .field (.column "id") [],
        .field (.embedding "sender" none none false) [.star, .star]] = .ok _ := rfl
  refine ⟨?_, _, hbuild, hshapes _ _ _ hbuild⟩
  exact hlast [.insert "id" (.typed .number false), .insert "name" (.typed .json false)]
    (.merge [.insert "body" (.typed .string false), .insert "id" (.typed .string false)])
    [.nullable, .insert "name" (.typed .string false)] "id" (.typed .string false) rfl (by decide)

end Shape

end GatewayQuery
