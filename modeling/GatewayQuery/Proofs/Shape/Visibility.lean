/-
Which faults of an expression its shape shows.

A fault is written under a key like anything else, and a later node of the level that writes
the same key takes its place.  The row that is asked for has then only what the later node
says, and the fault is not reported: `id:nope,id` has no errors.  That is the only way for a
fault to be lost.  A shape has no errors exactly if every node is without fault whose key is
not written again behind it, in its own level or, for the nodes of a spread, in the levels
that they are spliced into.

A node is therefore judged with two things in mind: the embeddings before it, which it must
not repeat, and the keys that are written behind it.
-/
import GatewayQuery.Proofs.Shape.Diagnoses

namespace GatewayQuery.Shape

open Schema (Index)
open Select (Field Node)

/-! ### Entries that stay -/

/-- Outside of some keys nothing is diagnosed in the entries that stay, which are the last ones
under their keys. -/
def ClearOutside (later : List String) (written : Shape) : Prop :=
  ∀ key, key ∉ later → ∀ entry ∈ lastAt key written, entry.Every fun _ => False

theorem clearOutside_nil (later : List String) : ClearOutside later [] := by
  intro key _ entry hentry
  cases hentry

/-- What is written first is covered by what is written then. -/
theorem clearOutside_append {later : List String} {first second : Shape} :
    ClearOutside later (first ++ second) ↔
      ClearOutside (second.keys ++ later) first ∧ ClearOutside later second := by
  constructor
  · intro h
    constructor
    · intro key hkey entry hentry
      rw [List.mem_append, not_or] at hkey
      refine h key hkey.2 entry ?_
      rw [lastAt_append, lastAt_eq_none_iff.mpr hkey.1]
      exact hentry
    · intro key hkey entry hentry
      refine h key hkey entry ?_
      rw [lastAt_append, Option.mem_def.mp hentry]
      rfl
  · rintro ⟨hfirst, hsecond⟩ key hkey entry hentry
    rw [lastAt_append] at hentry
    cases hlast : lastAt key second with
    | some held =>
      rw [hlast] at hentry
      exact hsecond key hkey entry (hlast.trans hentry)
    | none =>
      rw [hlast] at hentry
      refine hfirst key ?_ entry hentry
      rw [List.mem_append, not_or]
      exact ⟨lastAt_eq_none_iff.mp hlast, hkey⟩

theorem clearOutside_singleton {later : List String} {key : String} {entry : Entry} :
    ClearOutside later [(key, entry)] ↔ key ∈ later ∨ entry.Every fun _ => False := by
  have hlast : ∀ other, lastAt other [(key, entry)] = if key = other then some entry else none :=
    fun other => by rw [lastAt_cons, lastAt_nil, Option.none_or]
  constructor
  · intro h
    by_cases hkey : key ∈ later
    · exact .inl hkey
    · exact .inr (h key hkey entry (by rw [hlast, if_pos rfl]; rfl))
  · rintro h other hother held hheld
    rw [hlast] at hheld
    by_cases hsame : key = other
    · rw [if_pos hsame] at hheld
      obtain rfl := Option.some.inj hheld
      rcases h with hkey | hclear
      · exact absurd (hsame ▸ hkey) hother
      · exact hclear
    · rw [if_neg hsame] at hheld
      cases hheld

/-- Merging into the empty shape keeps exactly the entries that stay. -/
theorem clearOutside_merge_empty {later : List String} {written : Shape} :
    ClearOutside later (merge empty written) ↔ ClearOutside later written := by
  unfold ClearOutside
  simp only [lastAt_merge_empty]

theorem clearOutside_nullable {later : List String} {shape : Shape} :
    ClearOutside later shape.nullable ↔ ClearOutside later shape := by
  unfold ClearOutside
  simp only [lastAt_nullable, Option.mem_def, Option.map_eq_some_iff, forall_exists_index, and_imp,
    forall_apply_eq_imp_iff₂, every_nullable_entry]

/-- What diagnoses nothing is clear, whatever is written behind it. -/
theorem clearOutside_of_every {later : List String} {written : Shape}
    (h : Every (fun _ => False) written) : ClearOutside later written := by
  induction written generalizing later with
  | nil => exact clearOutside_nil later
  | cons field rest ih =>
    obtain ⟨key, entry⟩ := field
    rw [← List.singleton_append, clearOutside_append, clearOutside_singleton]
    exact ⟨.inr h.1, ih h.2⟩

/-- In a shape every entry stays. -/
theorem clearOutside_nil_iff_every {shape : Shape} (h : shape.keys.Nodup) :
    ClearOutside [] shape ↔ Every (fun _ => False) shape := by
  constructor
  · intro hclear
    induction shape with
    | nil => trivial
    | cons field rest ih =>
      obtain ⟨key, entry⟩ := field
      obtain ⟨hnew, hrest⟩ := List.nodup_cons.mp h
      rw [← List.singleton_append, clearOutside_append, clearOutside_singleton,
        List.append_nil] at hclear
      exact ⟨hclear.1.resolve_left hnew, ih hrest hclear.2⟩
  · exact clearOutside_of_every

/-! ### Nodes without fault -/

/-- How a field is resolved, and the relation that it leads to. -/
def Reaches (index : Index) (relation : Relation) (field : Field) (resolution : Resolution)
    (target : Relation) : Prop :=
  resolve index relation.name field = .ok resolution ∧
    index.relation? resolution.target = some target

mutual

/-- A node is without fault, or its fault is written over.  The embeddings of its level that come
before it are given, and the keys that are written behind it. -/
def Faultless (index : Index) (relation : Relation) (earlier : Resolved) (later : List String) :
    Node → Prop
  | .star => True
  | .field field children =>
    field.outputName ∈ later ∨
      if field.embedded then
        ∃ resolution target, Reaches index relation field resolution target ∧
          repeated earlier field resolution = false ∧ AllFaultless index target [] [] children
      else Known relation field
  | .spread target children =>
    -- the nodes of a row that is spliced in write among those of the level
    (∃ resolution other, Reaches index relation target resolution other ∧
        (resolution.cardinality index target.innerJoin).1 = .one ∧
        AllFaultless index other [] later children) ∨
      target.outputName ∈ later ∧
        ∀ resolution other, Reaches index relation target resolution other →
          (resolution.cardinality index target.innerJoin).1 = .many

/-- Each of some nodes is without fault, given the keys that are written behind all of them. -/
def AllFaultless (index : Index) (relation : Relation) (earlier : Resolved)
    (later : List String) : List Node → Prop
  | [] => True
  | node :: rest =>
    Faultless index relation earlier
        ((allWrites index relation (earlier ++ resolved index relation node) rest).keys ++ later)
        node ∧
      AllFaultless index relation (earlier ++ resolved index relation node) later rest

end

variable {schema : Schema} {index : Index} {relation : Relation} {field : Field}
  {later : List String}

/-- A field is resolved in one way only. -/
theorem Reaches.exists_iff {resolution : Resolution} {target : Relation}
    (h : Reaches index relation field resolution target) {P : Resolution → Relation → Prop} :
    (∃ other found, Reaches index relation field other found ∧ P other found) ↔
      P resolution target := by
  constructor
  · rintro ⟨other, found, hother, hP⟩
    obtain rfl := Except.ok.inj (h.1.symm.trans hother.1)
    obtain rfl := Option.some.inj (h.2.symm.trans hother.2)
    exact hP
  · intro hP
    exact ⟨resolution, target, h, hP⟩

theorem Reaches.forall_iff {resolution : Resolution} {target : Relation}
    (h : Reaches index relation field resolution target) {P : Resolution → Prop} :
    (∀ other found, Reaches index relation field other found → P other) ↔ P resolution := by
  constructor
  · intro hall
    exact hall resolution target h
  · intro hP other found hother
    obtain rfl := Except.ok.inj (h.1.symm.trans hother.1)
    exact hP

theorem not_reaches {failure : Failure} (h : resolve index relation.name field = .error failure)
    (resolution : Resolution) (target : Relation) :
    ¬Reaches index relation field resolution target := by
  rintro ⟨hresolve, -⟩
  rw [h] at hresolve
  cases hresolve

/-- An embedding that is resolved leads to a relation that is there. -/
theorem exists_reaches {resolution : Resolution}
    (h : resolve (.of schema) relation.name field = .ok resolution) :
    ∃ target, Reaches (.of schema) relation field resolution target := by
  obtain ⟨target, htarget, -⟩ := Schema.relation?_of_has (resolution_sound h).targetKnown
  exact ⟨target, h, (Index.relation?_of schema _).trans htarget⟩

theorem embedding_of_reaches {resolution : Resolution} {target : Relation}
    (h : Reaches index relation field resolution target) (children : List Node) :
    embedding index relation field children =
      .ok ⟨resolution, (resolution.cardinality index field.innerJoin).1,
        (resolution.cardinality index field.innerJoin).2, ofLevel index target children⟩ := by
  unfold embedding embed
  rw [h.1]
  simp only [h.2]

theorem embedding_of_error {failure : Failure}
    (h : resolve index relation.name field = .error failure) (children : List Node) :
    embedding index relation field children = .error failure := by
  unfold embedding embed
  rw [h]

/-! ### A fault is shown unless its key is written again -/

theorem clearOutside_failure {key : String} {failure : Failure} :
    ClearOutside later [(key, .ofFailure failure)] ↔ key ∈ later := by
  rw [clearOutside_singleton]
  exact or_iff_left id

theorem clearOutside_columns (embedded : Embedded) :
    ClearOutside later embedded.columns ↔ ClearOutside later embedded.child := by
  unfold Embedded.columns
  split
  · exact clearOutside_nullable
  · exact Iff.rfl

theorem leafEntry_clear (types : Schema) (relation : Relation) (field : Field) :
    (leafEntry types relation field).Every (fun _ => False) ↔ Known relation field := by
  unfold leafEntry
  rcases leafType_cases types relation field with
    ⟨hknown, type, nullable, htype, hrowless⟩ | ⟨hunknown, herror⟩
  · rw [htype]
    exact iff_of_true (type.every_of_rowless hrowless) hknown
  · rw [herror]
    exact iff_of_false id hunknown

theorem ofLevel_clear (nodes : List Node) :
    ClearOutside later (ofLevel index relation nodes) ↔
      ClearOutside later (allWrites index relation [] nodes) := by
  rw [ofLevel_eq, clearOutside_merge_empty]

theorem every_ofLevel_iff (nodes : List Node) :
    Every (fun _ => False) (ofLevel index relation nodes) ↔
      ClearOutside [] (allWrites index relation [] nodes) := by
  rw [← ofLevel_clear, clearOutside_nil_iff_every]
  rw [ofLevel_eq]
  exact nodup_merge nodup_empty _

theorem embeddingWrites_clear (earlier : Resolved) {children : List Node}
    (hchildren : ∀ target, ClearOutside [] (allWrites (.of schema) target [] children) ↔
      AllFaultless (.of schema) target [] [] children) :
    ClearOutside later (embeddingWrites relation earlier field children.isEmpty
        (embedding (.of schema) relation field children)) ↔
      field.outputName ∈ later ∨
        ∃ resolution target, Reaches (.of schema) relation field resolution target ∧
          repeated earlier field resolution = false ∧
            AllFaultless (.of schema) target [] [] children := by
  unfold embedding
  rcases embed_cases schema relation field fun target => ofLevel (.of schema) target children with
    ⟨resolution, target, hresolve, htarget, hembed⟩ | ⟨failure, hresolve, hembed⟩
  · have hreaches : Reaches (.of schema) relation field resolution target :=
      ⟨hresolve, by rw [Index.relation?_of, htarget]⟩
    rw [hembed, embeddingWrites, hreaches.exists_iff]
    by_cases hrepeated : repeated earlier field resolution = true
    · rw [if_pos hrepeated, clearOutside_failure, hrepeated]
      simp
    · rw [if_neg hrepeated, Bool.eq_false_iff.mpr hrepeated]
      cases children with
      | nil =>
        refine iff_of_true (clearOutside_nil later) (.inr ⟨rfl, ?_⟩)
        rw [AllFaultless]
        trivial
      | cons node rest =>
        rw [List.isEmpty_cons, if_neg Bool.false_ne_true, clearOutside_singleton, every_entry,
          every_ofLevel_iff, hchildren target]
        simp
  · rw [hembed, embeddingWrites, clearOutside_failure]
    refine (or_iff_left ?_).symm
    rintro ⟨resolution, target, hreaches, -⟩
    exact not_reaches hresolve resolution target hreaches

theorem spreadWrites_clear {children : List Node}
    (hchildren : ∀ target, ClearOutside later (allWrites (.of schema) target [] children) ↔
      AllFaultless (.of schema) target [] later children) :
    ClearOutside later
        (spreadWrites relation field (embedding (.of schema) relation field children)) ↔
      (∃ resolution target, Reaches (.of schema) relation field resolution target ∧
          (resolution.cardinality (.of schema) field.innerJoin).1 = .one ∧
          AllFaultless (.of schema) target [] later children) ∨
        field.outputName ∈ later ∧
          ∀ resolution target, Reaches (.of schema) relation field resolution target →
            (resolution.cardinality (.of schema) field.innerJoin).1 = .many := by
  unfold embedding
  rcases embed_cases schema relation field fun target => ofLevel (.of schema) target children with
    ⟨resolution, target, hresolve, htarget, hembed⟩ | ⟨failure, hresolve, hembed⟩
  · have hreaches : Reaches (.of schema) relation field resolution target :=
      ⟨hresolve, by rw [Index.relation?_of, htarget]⟩
    rw [hembed, spreadWrites, hreaches.exists_iff, hreaches.forall_iff]
    cases hcardinality : (resolution.cardinality (.of schema) field.innerJoin).1 with
    | one =>
      simp only [clearOutside_columns, ofLevel_clear, hchildren target, true_and, reduceCtorEq,
        and_false, or_false]
    | many =>
      simp only [clearOutside_failure, and_true, reduceCtorEq, false_and, false_or]
  · rw [hembed, spreadWrites, clearOutside_failure]
    constructor
    · intro hlater
      exact .inr ⟨hlater, fun resolution target hreaches =>
        absurd hreaches (not_reaches hresolve resolution target)⟩
    · rintro (⟨resolution, target, hreaches, -⟩ | ⟨hlater, -⟩)
      · exact absurd hreaches (not_reaches hresolve resolution target)
      · exact hlater

mutual

theorem writes_clear (relation : Relation) (earlier : Resolved) (later : List String) :
    ∀ node : Node, ClearOutside later (writes (.of schema) relation earlier node) ↔
      Faultless (.of schema) relation earlier later node
  | .star => by
    rw [writes, Faultless]
    refine iff_of_true (clearOutside_of_every (every_iff_all.mpr fun write hwrite => ?_)) trivial
    obtain ⟨column, -, rfl⟩ := List.mem_map.mp hwrite
    exact every_columnEntry _ column
  | .field field children => by
    rw [writes, Faultless]
    by_cases hembedded : field.embedded = true
    · rw [if_pos hembedded, if_pos hembedded]
      exact embeddingWrites_clear earlier fun target => allWrites_clear target [] [] children
    · rw [if_neg hembedded, if_neg hembedded, clearOutside_singleton, leafEntry_clear]
  | .spread target children => by
    rw [writes, Faultless]
    exact spreadWrites_clear fun other => allWrites_clear other [] later children

theorem allWrites_clear (relation : Relation) (earlier : Resolved) (later : List String) :
    ∀ nodes : List Node, ClearOutside later (allWrites (.of schema) relation earlier nodes) ↔
      AllFaultless (.of schema) relation earlier later nodes
  | [] => by
    rw [allWrites, AllFaultless]
    exact iff_of_true (clearOutside_nil later) trivial
  | node :: rest => by
    rw [allWrites, AllFaultless, clearOutside_append, writes_clear relation earlier _ node,
      allWrites_clear relation _ later rest]

end

/-- **The errors of a shape miss the faults that are written over, and no others.** -/
theorem errors_eq_nil_iff_faultless {root : String}
    (hroot : schema.relation? root = some relation) (nodes : List Node) :
    ∃ shape, build (.of schema) root nodes = .ok shape ∧
      (shape.errors = [] ↔ AllFaultless (.of schema) relation [] [] nodes) := by
  refine ⟨ofLevel (.of schema) relation nodes, ?_, ?_⟩
  · unfold build
    rw [Index.relation?_of, hroot]
  · rw [← allWrites_clear, ← every_ofLevel_iff, every_iff_errors, List.eq_nil_iff_forall_not_mem]

/-- Users, of whom only a number is kept. -/
def users : Relation := ⟨"users", .table, [⟨"id", "int8", false⟩], []⟩

/-- A column that is not there, under the key of one that is. -/
def misnamed : Field := { Field.column "nope" with key := some "id" }

/-- `id:nope,id` has no errors, although there is no column `nope`. -/
theorem error_lost_to_column :
    ∃ shape, build (.of ⟨[users], []⟩) "users"
        [.field misnamed [], .field (.column "id") []] = .ok shape ∧
      shape.errors = [] ∧ ¬Known users misnamed := by
  have hroot : Schema.relation? ⟨[users], []⟩ "users" = some users := rfl
  obtain ⟨shape, hbuild, herrors⟩ :=
    errors_eq_nil_iff_faultless hroot [.field misnamed [], .field (.column "id") []]
  refine ⟨shape, hbuild, herrors.mpr ?_, ?_⟩
  · have hover : misnamed.outputName ∈
        (allWrites (.of ⟨[users], []⟩) users [] [.field (.column "id") []]).keys ++ [] := by
      show "id" ∈ ["id"]
      decide
    have hknown : Known users (.column "id") :=
      .inr (.inr ⟨⟨"id", "int8", false⟩, List.mem_singleton_self _, rfl⟩)
    exact ⟨.inl hover, .inr hknown, trivial⟩
  · rintro (⟨aggregate, hnone, -⟩ | hname | ⟨column, hcolumn, hname⟩)
    · cases hnone
    · exact absurd hname (by decide)
    · rw [List.mem_singleton.mp hcolumn] at hname
      exact absurd hname (by decide)

end GatewayQuery.Shape
