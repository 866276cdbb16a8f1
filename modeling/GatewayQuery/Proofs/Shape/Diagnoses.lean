/-
Which diagnoses a shape can hold.

A property that all diagnoses of a shape have is a property of what was written into it, so
it is enough to look at the failures that the nodes raise: columns that are not there,
embeddings that do not resolve, spreads of many rows and embeddings that repeat others.
Types of columns and casts hold no diagnosis at all.

That a relation is missing is never among them.  An embedding is resolved between relations
that are there, and only the root is looked up by a name that nobody has checked.
-/
import GatewayQuery.Proofs.Resolution.Soundness
import GatewayQuery.Proofs.Shape.Writes

namespace GatewayQuery

open Schema (Index)
open Select (Field Node)

mutual

/-- Every diagnosis inside a type has the property, however deep. -/
def ValueType.Every (P : Diagnosis → Prop) : ValueType → Prop
  | .array element => element.Every P
  | .object fields => Shape.Every P fields
  | _ => True

def Entry.Every (P : Diagnosis → Prop) : Entry → Prop
  | .typed type _ => type.Every P
  | .failed diagnosis => P diagnosis

def Shape.Every (P : Diagnosis → Prop) : List (String × Entry) → Prop
  | [] => True
  | (_, entry) :: rest => entry.Every P ∧ Shape.Every P rest

end

variable {P : Diagnosis → Prop}

mutual

theorem ValueType.every_iff_errorsAt (path : String) :
    ∀ type : ValueType, type.Every P ↔ ∀ error ∈ type.errorsAt path, P error.2
  | .array element => by
    rw [ValueType.Every, ValueType.errorsAt]
    exact element.every_iff_errorsAt path
  | .object fields => by
    rw [ValueType.Every, ValueType.errorsAt]
    exact Shape.every_iff_errorsBelow path fields
  | .number | .string | .boolean | .json | .record | .void | .unknown | .enumeration _ => by
    simp [ValueType.Every, ValueType.errorsAt]

theorem Entry.every_iff_errorsAt (path : String) :
    ∀ entry : Entry, entry.Every P ↔ ∀ error ∈ entry.errorsAt path, P error.2
  | .typed type _ => by
    rw [Entry.Every, Entry.errorsAt]
    exact type.every_iff_errorsAt path
  | .failed diagnosis => by simp [Entry.Every, Entry.errorsAt]

theorem Shape.every_iff_errorsBelow (path : String) :
    ∀ fields : List (String × Entry),
      Shape.Every P fields ↔ ∀ error ∈ Shape.errorsBelow path fields, P error.2
  | [] => by simp [Shape.Every, Shape.errorsBelow]
  | (key, entry) :: rest => by
    rw [Shape.Every, Shape.errorsBelow, List.forall_mem_append,
      entry.every_iff_errorsAt (Shape.joinPath path key), Shape.every_iff_errorsBelow path rest]

end

/-- Scalars, labels and arrays of them: a type without rows. -/
def ValueType.Rowless : ValueType → Prop
  | .array element => element.Rowless
  | .object _ => False
  | _ => True

/-- There is nothing to be diagnosed in a type without rows. -/
theorem ValueType.every_of_rowless : ∀ type : ValueType, type.Rowless → type.Every P
  | .array element, h => by
    rw [ValueType.Every]
    exact element.every_of_rowless h
  | .object _, h => h.elim
  | .number, _ | .string, _ | .boolean, _ | .json, _ | .record, _ | .void, _ | .unknown, _
  | .enumeration _, _ => trivial

namespace Shape

/-- The property holds of all diagnoses if it holds of those that are listed. -/
theorem every_iff_errors {shape : Shape} : Every P shape ↔ ∀ error ∈ shape.errors, P error.2 :=
  every_iff_errorsBelow "" shape

theorem every_iff_all {shape : Shape} : Every P shape ↔ All (·.Every P) shape := by
  induction shape with
  | nil => exact iff_of_true trivial all_nil
  | cons field rest ih => rw [Every, ih, all_cons]

theorem every_nullable_entry {entry : Entry} :
    entry.nullable.Every P ↔ entry.Every P := by
  cases entry <;> rfl

/-! ### Columns and leaves -/

theorem rowless_ofScalar (name : String) : (ValueType.ofScalar name).Rowless := by
  unfold ValueType.ofScalar
  split <;> trivial

theorem rowless_valueTypeOf (schema : Schema) (name : List Char) :
    (schema.valueTypeOf name).Rowless := by
  fun_induction Schema.valueTypeOf schema name with
  | case1 name type htype => trivial
  | case2 name hnone element helement hlt ih => exact ih
  | case3 name hnone helement => exact rowless_ofScalar _

theorem rowless_valueType (schema : Schema) (dataType : String) :
    (schema.valueType dataType).Rowless :=
  rowless_valueTypeOf schema dataType.toList

theorem rowless_cast {type : ValueType} (h : type.Rowless) (schema : Schema)
    (cast : Option String) : ((cast.map schema.valueType).getD type).Rowless := by
  cases cast with
  | none => exact h
  | some name => exact rowless_valueType schema name

/-- A field that is no embedding has a type: it counts rows, or it is called `count`, or it names
a column. -/
def Known (relation : Relation) (field : Field) : Prop :=
  (∃ aggregate ∈ field.aggregate, aggregate.standalone = true) ∨ field.name = "count" ∨
    ∃ column ∈ relation.columns, column.name = field.name

theorem rowless_number : ValueType.number.Rowless := trivial

/-- A value inside of a JSON column. -/
theorem rowless_json (path : Select.JsonPath) :
    (if path.text then ValueType.string else .json).Rowless := by
  cases path.text <;> trivial

/-- A leaf fails exactly if it is not known, and there are no rows in its type. -/
theorem leafType_cases (schema : Schema) (relation : Relation) (field : Field) :
    (Known relation field ∧ ∃ type nullable,
        leafType schema relation field = .ok (type, nullable) ∧ type.Rowless) ∨
      (¬Known relation field ∧
        leafType schema relation field = .error (.unknownColumn relation.name field.name)) := by
  unfold leafType Known
  cases haggregate : field.aggregate with
  | some aggregate =>
    by_cases hfault : (!aggregate.standalone && (relation.column? field.name).isNone &&
        field.name != "count") = true
    · refine .inr ⟨?_, by simp only [hfault, if_true]⟩
      simp only [Bool.and_eq_true, Bool.not_eq_true', Option.isNone_iff_eq_none,
        Relation.column?_eq_none_iff, bne_iff_ne] at hfault
      simp [hfault.1.1, hfault.1.2, hfault.2]
    · refine .inl ⟨?_, _, _, by simp only [hfault]; rfl,
        rowless_cast rowless_number schema _⟩
      simp only [Bool.and_eq_true, Bool.not_eq_true', Option.isNone_iff_eq_none,
        Relation.column?_eq_none_iff, bne_iff_ne, not_and, not_not, and_imp] at hfault
      by_cases hstandalone : aggregate.standalone = true
      · exact .inl ⟨aggregate, rfl, hstandalone⟩
      · by_cases hcolumn : ∃ column ∈ relation.columns, column.name = field.name
        · exact .inr (.inr hcolumn)
        · exact .inr (.inl (hfault (by simpa using hstandalone) hcolumn))
  | none =>
    cases hcolumn : relation.column? field.name with
    | some column =>
      have hfound : ∃ column ∈ relation.columns, column.name = field.name :=
        ⟨column, List.mem_of_find?_eq_some hcolumn, by simpa using List.find?_some hcolumn⟩
      refine .inl ⟨.inr (.inr hfound), ?_⟩
      cases field.jsonPath with
      | none => exact ⟨_, _, rfl, rowless_cast (rowless_valueType schema _) schema _⟩
      | some path => exact ⟨_, _, rfl, rowless_cast (rowless_json path) schema _⟩
    | none =>
      have hmissing := Relation.column?_eq_none_iff.mp hcolumn
      by_cases hcount : field.name = "count"
      · refine .inl ⟨.inr (.inl hcount), ?_⟩
        simp only [hcount, if_true]
        cases field.jsonPath with
        | none => exact ⟨_, _, rfl, rowless_cast rowless_number schema _⟩
        | some path => exact ⟨_, _, rfl, rowless_cast (rowless_json path) schema _⟩
      · refine .inr ⟨?_, by simp only [hcount, if_false]⟩
        rintro (⟨aggregate, hnone, -⟩ | hname | hfound)
        · cases hnone
        · exact hcount hname
        · exact hmissing hfound

/-! ### Embeddings -/

theorem every_entry (embedded : Embedded) : embedded.entry.Every P ↔ Every P embedded.child := by
  obtain ⟨resolution, cardinality, nullable, child⟩ := embedded
  cases cardinality with
  | one => rfl
  | many => rfl

/-- **An embedding fails only to resolve**: the relation that a resolution leads to is there. -/
theorem embed_cases (schema : Schema) (relation : Relation) (field : Field)
    (child : Relation → Shape) :
    (∃ resolution target, resolve (.of schema) relation.name field = .ok resolution ∧
        schema.relation? resolution.target = some target ∧
        embed (.of schema) relation field child =
          .ok ⟨resolution, (resolution.cardinality (.of schema) field.innerJoin).1,
            (resolution.cardinality (.of schema) field.innerJoin).2, child target⟩) ∨
      (∃ failure, resolve (.of schema) relation.name field = .error failure ∧
        embed (.of schema) relation field child = .error failure) := by
  unfold embed
  cases hresolve : resolve (.of schema) relation.name field with
  | error failure => exact .inr ⟨failure, rfl, rfl⟩
  | ok resolution =>
    obtain ⟨target, htarget, -⟩ :=
      Schema.relation?_of_has (resolution_sound hresolve).targetKnown
    refine .inl ⟨resolution, target, rfl, htarget, ?_⟩
    simp only [Schema.Index.relation?_of, htarget]

/-- A property of every failure that a node of a level can raise. -/
structure Raised (schema : Schema) (P : Diagnosis → Prop) : Prop where
  unknownColumn : ∀ relation column, P (Failure.unknownColumn relation column).diagnosis
  unresolved : ∀ current field failure,
    resolve (.of schema) current field = .error failure → P failure.diagnosis
  illegalSpread : ∀ relation target, P (Failure.illegalSpread relation target).diagnosis
  duplicateEmbedding : ∀ relation target, P (Failure.duplicateEmbedding relation target).diagnosis

theorem every_columnEntry (schema : Schema) (column : Column) :
    (columnEntry schema column).Every P :=
  (schema.valueType column.dataType).every_of_rowless (rowless_valueType schema column.dataType)

theorem Raised.leafEntry {schema : Schema} (h : Raised schema P) (types : Schema)
    (relation : Relation) (field : Field) : (leafEntry types relation field).Every P := by
  unfold Shape.leafEntry
  rcases leafType_cases types relation field with ⟨-, type, nullable, htype, hrowless⟩ | ⟨-, herror⟩
  · rw [htype]
    exact type.every_of_rowless hrowless
  · rw [herror]
    exact h.unknownColumn relation.name field.name

/-- What holds of every failure that a node can raise is kept by every node. -/
theorem Raised.kept {schema : Schema} (h : Raised schema P) : Kept (.of schema) (·.Every P) where
  column := every_columnEntry _
  leaf := h.leafEntry _
  unresolved relation field child failure hembed := by
    rcases embed_cases schema relation field child with
      ⟨resolution, target, -, -, hok⟩ | ⟨other, hresolve, herror⟩
    · rw [hok] at hembed
      cases hembed
    · obtain rfl := Except.error.inj (herror.symm.trans hembed)
      exact h.unresolved relation.name field other hresolve
  duplicateEmbedding := h.duplicateEmbedding
  illegalSpread := h.illegalSpread
  row embedded _ hall := (every_entry embedded).mpr (every_iff_all.mpr hall)
  nullable _ := every_nullable_entry.mpr

/-- **What holds of every failure that a node can raise holds of every diagnosis of a shape.** -/
theorem Raised.build {schema : Schema} (h : Raised schema P) {root : String} {nodes : List Node}
    {shape : Shape} (hbuild : build (.of schema) root nodes = .ok shape) : Every P shape :=
  every_iff_all.mpr (h.kept.build hbuild).2

/-! ### Missing relations -/

theorem kind_of_unresolved {schema : Schema} {current : String} {field : Field} {failure : Failure}
    (h : resolve (.of schema) current field = .error failure) :
    failure.kind = .relationshipNotFound ∨ failure.kind = .ambiguousRelationship := by
  rcases resolve_eq_error h with rfl | hname
  · exact .inl rfl
  · obtain ⟨-, edges, travel, -, rfl⟩ := Resolution.byName_eq_error hname
    exact .inr rfl

theorem raised_relation_known (schema : Schema) :
    Raised schema fun diagnosis => diagnosis.kind ≠ .unknownRelation where
  unknownColumn := fun _ _ => by
    show Diagnosis.Kind.unknownColumn ≠ .unknownRelation
    decide
  unresolved := fun current field failure h => by
    show failure.kind ≠ .unknownRelation
    rcases kind_of_unresolved h with hkind | hkind <;> rw [hkind] <;> decide
  illegalSpread := fun _ _ => by
    show Diagnosis.Kind.illegalSpread ≠ .unknownRelation
    decide
  duplicateEmbedding := fun _ _ => by
    show Diagnosis.Kind.duplicateEmbedding ≠ .unknownRelation
    decide

/-- **Resolution is sound, so no relation is ever missing inside of a shape.**  Whatever a field
resolves to is declared and leads where it says; and of the diagnoses in a shape that was built,
however deep, none is that a relation does not exist. -/
theorem resolution_sound_throughout (schema : Schema) :
    (∀ current field resolution, resolve (.of schema) current field = .ok resolution →
        resolution.Sound schema current field) ∧
      ∀ root nodes shape, build (.of schema) root nodes = .ok shape →
        Every (fun diagnosis => diagnosis.kind ≠ .unknownRelation) shape :=
  ⟨fun _ _ _ h => resolution_sound h, fun _ _ _ h => (raised_relation_known schema).build h⟩

end Shape

/-- Employees, each with a manager or without one. -/
def Schema.employees : Schema where
  relations := [
    ⟨"employees", .table, [⟨"id", "int8", false⟩, ⟨"manager_id", "int8", true⟩],
      [⟨"employees_manager_id_fkey", ["manager_id"], "employees", ["id"], false⟩]⟩]
  enums := []

/-- A key from a relation to itself, chosen by its column, is travelled backward; and embedding it
in itself reports no missing relation. -/
theorem Shape.resolution_sound_for_employees :
    Resolution.Sound .employees "employees"
        (.embedding "employees" none (some "manager_id") false)
        ⟨⟨"employees_manager_id_fkey", ["manager_id"], "employees", ["id"], false⟩, .reverse,
          "employees", "employees", .byHint⟩ ∧
      ∃ shape,
        build (.of .employees) "employees"
            [.field (.embedding "employees" none none false)
              [.field (.embedding "managers" none none false) [.star]]] = .ok shape ∧
          Every (fun diagnosis => diagnosis.kind ≠ .unknownRelation) shape := by
  obtain ⟨hresolutions, hshapes⟩ := resolution_sound_throughout .employees
  have hbuild : build (.of .employees) "employees"
      [.field (.embedding "employees" none none false)
        [.field (.embedding "managers" none none false) [.star]]] = .ok _ := rfl
  exact ⟨hresolutions _ _ _ rfl, _, hbuild, hshapes _ _ _ hbuild⟩

end GatewayQuery
