/-
A derived relation is consistent.

Names go through three attributes, each with a fallback that is made of the names before it: the
relation is called as its attribute says or after the type, a column as its attribute says or after
the field, and a foreign key as its attribute says or after the relation and the column.  What comes
out is described here by what is written in the attributes (`Proofs/Record/Attributes.lean`), field
by field.

Every key is on the column of its own field, under the name that the column got in the end, and on
one column only, as it points at one.  So the relation makes a schema that passes the check,
whatever its fields are called; nothing is asked of the names, which may be the same for two
columns.
-/
import GatewayQuery.Proofs.Record.Attributes
import GatewayQuery.Proofs.Schema.Consistency
import GatewayQuery.Record.Derive

namespace GatewayQuery.Record

/-! ### What is asked for -/

/-- The name that a field asks for its column. -/
def Field.columnName (field : Field) : String :=
  (lastText? "name" (written "column" field.attributes)).getD field.name

/-- Whether a field refers to another relation. -/
def Field.refers (field : Field) : Bool := field.attributes.any (·.name == "references")

/-- What a field says of the relation that it refers to: the first attribute counts. -/
def Field.reference (field : Field) : List Entry :=
  match field.attributes.find? (·.name == "references") with
  | some first => first.arguments.written
  | none => []

/-- The column is what the field asks for. -/
structure IsColumn (field : Field) (column : Column) : Prop where
  name : column.name = field.columnName
  dataType : some column.dataType =
    (lastText? "pg_type" (written "column" field.attributes)).or field.type.columnType.1
  nullable : column.nullable =
    (mentions "nullable" (written "column" field.attributes) || field.type.columnType.2)

/-- The foreign key is what the field asks for, in a relation with the name. -/
structure IsKey (relation : String) (field : Field) (key : ForeignKey) : Prop where
  columns : key.columns = [field.columnName]
  referenced : some key.referenced = lastText? "relation" field.reference
  referencedColumns : key.referencedColumns = [(lastText? "column" field.reference).getD "id"]
  name : key.name =
    (lastText? "fkey" field.reference).getD (relation ++ "_" ++ field.columnName ++ "_fkey")
  oneToOne : key.oneToOne = mentions "one_to_one" field.reference

/-- What is generated is what the type and its fields ask for: a column for each field and a foreign
key for each field that refers to another relation, both in the order of the fields. -/
structure Describes (item : Item) (generated : Generated) : Prop where
  name : generated.relation.name =
    (lastText? "name" (written "relation" item.attributes)).getD (snakeCase item.name)
  kind : generated.relation.kind =
    if mentions "view" (written "relation" item.attributes) then .view else .table
  columns : List.Forall₂ IsColumn item.fields generated.relation.columns
  keys : List.Forall₂ (IsKey generated.relation.name) (item.fields.filter Field.refers)
    generated.relation.keys
  relationName : generated.relationName = generated.relation.name
  columnNames : generated.columnNames = generated.relation.columns.map (·.name)

/-! ### One field -/

variable {relation : String} {field : Field} {column : Column} {key : Option ForeignKey}

/-- A field has a key exactly if it refers to another relation. -/
def HasKey (relation : String) (field : Field) (key : Option ForeignKey) : Prop :=
  if field.refers then ∃ found, key = some found ∧ IsKey relation field found else key = none

theorem hasKey_of_foreignKey?
    (h : foreignKey? field.attributes relation field.columnName = .ok key) :
    HasKey relation field key := by
  have hname : Vocabulary.references.name = "references" := rfl
  unfold foreignKey? at h
  rw [hname] at h
  cases hfind : field.attributes.find? (·.name == "references") with
  | none =>
    rw [hfind] at h
    have hrefers : field.refers = false := by simpa [Field.refers] using hfind
    rw [HasKey, hrefers]
    exact (Except.ok.inj h).symm
  | some first =>
    rw [hfind] at h
    have hrefers : field.refers = true :=
      List.any_eq_true.mpr ⟨first, List.mem_of_find?_eq_some hfind,
        by simpa using List.find?_some hfind⟩
    have hreference : field.reference = first.arguments.written := by
      rw [Field.reference, hfind]
    have hbare : ∀ said, (.error (.expectedArguments "references") : Except Fault Settings) =
        .ok said → said = [] := fun _ hsaid => (nomatch hsaid)
    obtain ⟨settings, hsettings, h⟩ := bind_eq_ok h
    obtain rfl := Vocabulary.settingsOf_ok hbare hsettings
    rw [← hreference] at h
    simp only [Settings.text?_said, Settings.has_said] at h
    rw [HasKey, if_pos hrefers]
    cases hrelation : lastText? "relation" field.reference with
    | none =>
      rw [hrelation] at h
      cases h
    | some referenced =>
      rw [hrelation] at h
      cases h
      exact ⟨_, rfl, rfl, hrelation.symm, rfl, rfl, rfl⟩

theorem column_ok (h : Record.column relation field = .ok (column, key)) :
    IsColumn field column ∧ HasKey relation field key := by
  unfold Record.column at h
  obtain ⟨settings, hsettings, h⟩ := bind_eq_ok h
  obtain rfl := Vocabulary.settings_ok hsettings
  simp only [Settings.text?_said, Settings.has_said] at h
  split at h
  · cases h
  · rename_i dataType hdataType
    obtain ⟨found, hfound, h⟩ := bind_eq_ok h
    cases h
    exact ⟨⟨rfl, hdataType.symm, rfl⟩, hasKey_of_foreignKey? hfound⟩

/-! ### All fields -/

/-- Of fields with their keys, those that refer to other relations have one each. -/
theorem forall₂_filterMap_key {fields : List Field} {columns : List (Column × Option ForeignKey)}
    (h : List.Forall₂ (fun field pair => HasKey relation field pair.2) fields columns) :
    List.Forall₂ (IsKey relation) (fields.filter Field.refers) (columns.filterMap (·.2)) := by
  induction h with
  | nil => exact .nil
  | @cons field pair fields columns hkey _ ih =>
    unfold HasKey at hkey
    cases hrefers : field.refers with
    | true =>
      rw [if_pos hrefers] at hkey
      obtain ⟨found, hfound, hkey⟩ := hkey
      rw [List.filter_cons_of_pos hrefers, List.filterMap_cons_some hfound]
      exact .cons hkey ih
    | false =>
      rw [hrefers] at hkey
      rw [List.filter_cons_of_neg (by simp [hrefers]), List.filterMap_cons_none hkey]
      exact ih

theorem describes_of_generate {item : Item} {generated : Generated}
    (h : generate item = .ok generated) : Describes item generated := by
  unfold generate at h
  obtain ⟨settings, hsettings, h⟩ := bind_eq_ok h
  obtain rfl := Vocabulary.settings_ok hsettings
  obtain ⟨_, -, h⟩ := bind_eq_ok h
  obtain ⟨columns, hcolumns, h⟩ := bind_eq_ok h
  simp only [Settings.text?_said, Settings.has_said] at h hcolumns
  have hfields := (forall₂_of_mapM hcolumns).imp fun field pair hpair => column_ok hpair
  cases h
  refine ⟨rfl, rfl, ?_, ?_, rfl, ?_⟩
  · exact List.forall₂_map_right_iff.mpr (hfields.imp fun _ _ hpair => hpair.1)
  · exact forall₂_filterMap_key (hfields.imp fun _ _ hpair => hpair.2)
  · simp [List.map_map, Function.comp_def]

/-! ### Consistency -/

theorem exists_of_forall₂ {α β : Type} {R : α → β → Prop} {items : List α} {results : List β}
    (h : List.Forall₂ R items results) {result : β} (hresult : result ∈ results) :
    ∃ item ∈ items, R item result := by
  induction h with
  | nil => exact absurd hresult List.not_mem_nil
  | @cons item first items results hfirst _ ih =>
    rcases List.mem_cons.mp hresult with rfl | hrest
    · exact ⟨item, List.mem_cons_self, hfirst⟩
    · obtain ⟨other, hmem, hother⟩ := ih hrest
      exact ⟨other, List.mem_cons_of_mem item hmem, hother⟩

/-- A schema with just this relation is consistent. -/
theorem Describes.consistent {item : Item} {generated : Generated} (h : Describes item generated)
    (enums : List EnumType) : Schema.Consistent ⟨[generated.relation], enums⟩ := by
  refine ⟨List.nodup_singleton _, ?_⟩
  intro relation hrelation key hkey
  obtain rfl := List.mem_singleton.mp hrelation
  obtain ⟨field, hfield, hasked⟩ := exists_of_forall₂ h.keys hkey
  refine ⟨by rw [hasked.columns, hasked.referencedColumns]; rfl, ?_⟩
  intro name hname
  rw [hasked.columns] at hname
  obtain rfl := List.mem_singleton.mp hname
  obtain ⟨column, hcolumn, hcolumnField⟩ :=
    exists_of_forall₂ h.columns.flip (List.mem_of_mem_filter hfield)
  exact ⟨column, hcolumn, hcolumnField.name⟩

/-- **A derived relation is consistent.**  It has one column for each field, under the name that the
field asks for, which the constant lists too; one foreign key for each field that refers to another
relation, on the column of the field; and a schema that holds nothing else passes the check. -/
theorem generate_consistent {item : Item} {generated : Generated}
    (h : generate item = .ok generated) :
    Describes item generated ∧
      generated.relation.columns.map (·.name) = item.fields.map Field.columnName ∧
      ∀ enums, Schema.check ⟨[generated.relation], enums⟩ = .ok () := by
  have hdescribes := describes_of_generate h
  refine ⟨hdescribes, ?_, fun enums => ?_⟩
  · rw [← List.forall₂_eq_eq_eq, List.forall₂_map_left_iff, List.forall₂_map_right_iff]
    exact hdescribes.columns.flip.imp fun _ _ hcolumn => hcolumn.name
  · exact Schema.check_eq_ok_iff.mpr (hdescribes.consistent enums)

/-- A post that names its author by a column of another name. -/
def post : Item where
  name := "BlogPost"
  form := .named
  attributes := [⟨"relation", .entries [⟨"name", some (.text "posts")⟩]⟩]
  fields := [
    ⟨"id", .path ["i64"] [], []⟩,
    ⟨"author", .path ["Option"] [.type (.path ["Uuid"] [])], [
      ⟨"references", .entries [⟨"relation", some (.text "users")⟩, ⟨"one_to_one", none⟩]⟩,
      ⟨"column", .entries [⟨"name", some (.text "author_id")⟩]⟩]⟩]

/-- The relation of posts. -/
def posts : Relation where
  name := "posts"
  kind := .table
  columns := [⟨"id", "int8", false⟩, ⟨"author_id", "uuid", true⟩]
  keys := [⟨"posts_author_id_fkey", ["author_id"], "users", ["id"], true⟩]

/-- The key is called after the relation and the column as they are called in the end. -/
theorem generate_consistent_post :
    generate post = .ok ⟨posts, "posts", ["id", "author_id"]⟩ ∧
      Schema.check ⟨[posts], []⟩ = .ok () := by
  have hpost : generate post = .ok ⟨posts, "posts", ["id", "author_id"]⟩ := rfl
  obtain ⟨-, -, hcheck⟩ := generate_consistent hpost
  exact ⟨hpost, hcheck []⟩

end GatewayQuery.Record
