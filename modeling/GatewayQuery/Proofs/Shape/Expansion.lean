/-
What a star stands for.

A star asks for every column, and so does a list of fields that names the columns one by one.  The
two take different ways.  A star writes the columns one after the other, so that of two columns with
one name the later one counts; a field looks its column up, and finds the first.  Nothing keeps a
relation from declaring a name twice, and then the two ways agree exactly in so far as the first and
the last column of the name do.  Where names are apart there is nothing to disagree about.

What holds of a level holds wherever the level stands.  A node reads the nodes below it in two
respects only, the shape that they have together and whether there are any, so they may be exchanged
for others that have the same shape.  The second respect is no formality: an embedding without nodes
is left out of its row, and for a relation without columns a star is a node while the list of its
columns has none.
-/
import GatewayQuery.Proofs.Resolution.Nullability
import GatewayQuery.Proofs.Shape.Selection
import GatewayQuery.Proofs.Shape.Splicing

namespace GatewayQuery

open Select (Field Node)

namespace Relation

/-- The last column with the name. -/
def lastColumn? (relation : Relation) (name : String) : Option Column :=
  relation.columns.findRev? (·.name == name)

/-- The first and the last column of each name have the same type and may both be null or not. -/
def Settled (schema : Schema) (relation : Relation) : Prop :=
  ∀ name first last, relation.column? name = some first → relation.lastColumn? name = some last →
    schema.valueType first.dataType = schema.valueType last.dataType ∧
      first.nullable = last.nullable

variable {relation : Relation} {name : String} {column : Column}

theorem mem_of_lastColumn? (h : relation.lastColumn? name = some column) :
    column ∈ relation.columns ∧ column.name = name := by
  unfold lastColumn? at h
  rw [List.findRev?_eq_find?_reverse] at h
  exact ⟨List.mem_reverse.mp (List.mem_of_find?_eq_some h), by simpa using List.find?_some h⟩

/-- Where the names of the columns are apart, the first column of a name is the last. -/
theorem settled_of_nodup (h : (relation.columns.map (·.name)).Nodup) (schema : Schema) :
    relation.Settled schema := by
  intro name first last hfirst hlast
  obtain ⟨hmem, hname⟩ := mem_of_lastColumn? hlast
  have hsame : first = last := by
    refine List.inj_on_of_nodup_map h (List.mem_of_find?_eq_some hfirst) hmem ?_
    rw [hname]
    simpa using List.find?_some hfirst
  rw [hsame]
  exact ⟨rfl, rfl⟩

end Relation

namespace Shape

/-- The columns of a relation, each asked for by its name. -/
def spelled (relation : Relation) : List Node :=
  relation.columns.map fun column => .field (.column column.name) []

variable {schema : Schema} {relation other last : Relation} {nodes others : List Node}

/-! ### One level -/

/-- Of the entries under the names of columns the one of the last column counts. -/
theorem lastAt_columns (key : String) (columns : List Column) (entry : Column → Entry) :
    lastAt key (columns.map fun column => (column.name, entry column)) =
      (columns.findRev? (·.name == key)).map entry := by
  have hnamed : Keyed.named key (columns.map fun column => (column.name, entry column)) =
      (columns.filter (·.name == key)).map entry := by
    induction columns with
    | nil => rfl
    | cons column rest ih =>
      rw [List.map_cons, Keyed.named_cons, ih, List.filter_cons]
      by_cases h : column.name = key <;> simp [h]
  unfold lastAt
  rw [hnamed, List.getLast?_map, List.getLast?_filter, List.findRev?_eq_find?_reverse]

theorem allWrites_spelled {index : Schema.Index} (columns : List Column) :
    allWrites index relation [] (columns.map fun column => .field (.column column.name) []) =
      columns.map fun column =>
        (column.name, leafEntry index.schema relation (.column column.name)) := by
  induction columns with
  | nil => rw [List.map_nil, allWrites, List.map_nil]
  | cons column rest ih =>
    rw [List.map_cons, List.map_cons, allWrites, resolved, writes]
    exact congrArg _ ih

/-- A field that names a column has the entry of the first column with that name. -/
theorem leafEntry_column {name : String} {column : Column}
    (h : relation.column? name = some column) :
    leafEntry schema relation (.column name) = columnEntry schema column := by
  unfold leafEntry leafType
  rw [show (Field.column name).name = name from rfl, h]
  rfl

/-- The level of a star is the level of the columns by name. -/
theorem ofLevel_star (h : relation.Settled schema) :
    ofLevel (.of schema) relation [.star] = ofLevel (.of schema) relation (spelled relation) := by
  have hstar : allWrites (.of schema) relation [] [.star] =
      relation.columns.map fun column => (column.name, columnEntry schema column) := by
    rw [allWrites, allWrites, List.append_nil, writes, Schema.Index.schema_of]
  have hspelled : allWrites (.of schema) relation [] (spelled relation) =
      relation.columns.map fun column =>
        (column.name, leafEntry schema relation (.column column.name)) := by
    rw [spelled, allWrites_spelled, Schema.Index.schema_of]
  refine Keyed.ext_of_nodup (nodup_ofLevel _) ?_ ?_
  · show (ofLevel (.of schema) relation [.star]).keys =
      (ofLevel (.of schema) relation (spelled relation)).keys
    rw [keys_ofLevel_writes, keys_ofLevel_writes, hstar, hspelled]
    unfold Shape.keys Keyed.keys
    rw [List.map_map, List.map_map]
    rfl
  · intro key
    show (ofLevel (.of schema) relation [.star]).get? key =
      (ofLevel (.of schema) relation (spelled relation)).get? key
    rw [← lastAt_of_nodup (nodup_ofLevel _), ← lastAt_of_nodup (nodup_ofLevel _), ofLevel_eq,
      ofLevel_eq, lastAt_merge_empty, lastAt_merge_empty, hstar, hspelled, lastAt_columns,
      lastAt_columns]
    refine Option.map_congr fun column hlast => ?_
    obtain ⟨hmem, hname⟩ := Relation.mem_of_lastColumn? hlast
    obtain ⟨first, hfirst, -⟩ := Relation.column?_of_known ⟨column, hmem, hname⟩
    obtain ⟨htype, hnullable⟩ := h key first column hfirst hlast
    rw [hname, leafEntry_column hfirst, columnEntry, columnEntry, htype, hnullable]

/-! ### A level below others -/

/-- A field of a level with nodes below it that are left open, and the nodes beside it. -/
inductive Opening where
  | embedding (before : List Node) (field : Field) (after : List Node)
  | spread (before : List Node) (target : Field) (after : List Node)

namespace Opening

def field : Opening → Field
  | .embedding _ field _ => field
  | .spread _ target _ => target

def isEmbedding : Opening → Bool
  | .embedding .. => true
  | .spread .. => false

/-- The level with nodes filled in. -/
def fill (nodes : List Node) : Opening → List Node
  | .embedding before field after => before ++ .field field nodes :: after
  | .spread before target after => before ++ .spread target nodes :: after

end Opening

/-- The level with nodes filled in below some fields, the outermost first. -/
def fillAll (nodes : List Node) : List Opening → List Node
  | [] => nodes
  | opening :: rest => opening.fill (fillAll nodes rest)

/-- The fields lead from one relation to another. -/
inductive Opens (schema : Schema) : Relation → List Opening → Relation → Prop
  | here (relation : Relation) : Opens schema relation [] relation
  | inside {relation other last : Relation} {opening : Opening} {rest : List Opening}
      {resolution : Resolution}
      (hreaches : Reaches (.of schema) relation opening.field resolution other)
      (hrest : Opens schema other rest last) : Opens schema relation (opening :: rest) last

/-- The nodes that are filled in stand below an embedding. -/
def BelowEmbedding (openings : List Opening) : Prop :=
  ∃ opening ∈ openings.getLast?, opening.isEmbedding = true

/-- Nodes that write the same and are remembered alike may be exchanged. -/
theorem ofLevel_exchange {index : Schema.Index} {node twin : Node}
    (hwrites : ∀ earlier, writes index relation earlier node = writes index relation earlier twin)
    (hresolved : resolved index relation node = resolved index relation twin)
    (before after : List Node) :
    ofLevel index relation (before ++ node :: after) =
      ofLevel index relation (before ++ twin :: after) := by
  rw [ofLevel_eq, ofLevel_eq, allWrites_append, allWrites_append, allWrites, allWrites, hwrites,
    hresolved]

/-- What is filled in counts by its shape, and for an embedding by whether there is anything. -/
theorem ofLevel_fill {opening : Opening} {resolution : Resolution}
    (hreaches : Reaches (.of schema) relation opening.field resolution other)
    (hlevel : ofLevel (.of schema) other nodes = ofLevel (.of schema) other others)
    (hempty : opening.isEmbedding = true → nodes.isEmpty = others.isEmpty) :
    ofLevel (.of schema) relation (opening.fill nodes) =
      ofLevel (.of schema) relation (opening.fill others) := by
  have hembedding : embedding (.of schema) relation opening.field nodes =
      embedding (.of schema) relation opening.field others := by
    rw [embedding_of_reaches hreaches, embedding_of_reaches hreaches, hlevel]
  cases opening with
  | embedding before field after =>
    have hsame : embedding (.of schema) relation field nodes =
        embedding (.of schema) relation field others := hembedding
    refine ofLevel_exchange ?_ ?_ before after
    · intro earlier
      rw [writes, writes, hempty rfl, hsame]
    · rw [resolved, resolved, hsame]
  | spread before target after =>
    have hsame : embedding (.of schema) relation target nodes =
        embedding (.of schema) relation target others := hembedding
    refine ofLevel_exchange ?_ ?_ before after
    · intro earlier
      rw [writes, writes, hsame]
    · rw [resolved, resolved]

theorem isEmpty_fill (opening : Opening) (nodes : List Node) :
    (opening.fill nodes).isEmpty = false := by
  cases opening with
  | embedding before field after => simp [Opening.fill]
  | spread before target after => simp [Opening.fill]

/-- Nodes with the same shape may be exchanged below any fields. -/
theorem ofLevel_fillAll {openings : List Opening} (hopens : Opens schema relation openings last)
    (hlevel : ofLevel (.of schema) last nodes = ofLevel (.of schema) last others)
    (hempty : BelowEmbedding openings → nodes.isEmpty = others.isEmpty) :
    ofLevel (.of schema) relation (fillAll nodes openings) =
      ofLevel (.of schema) relation (fillAll others openings) := by
  induction hopens with
  | here relation => exact hlevel
  | @inside relation other last opening rest resolution hreaches hrest ih =>
    rw [fillAll, fillAll]
    -- only the innermost field sees whether nodes were filled in; the others have nodes below them
    cases rest with
    | nil =>
      refine ofLevel_fill hreaches (ih hlevel fun h => ?_) fun h => hempty ⟨opening, rfl, h⟩
      obtain ⟨found, hfound, -⟩ := h
      cases hfound
    | cons next rest =>
      refine ofLevel_fill hreaches (ih hlevel ?_) fun _ => ?_
      · intro h
        obtain ⟨found, hfound, hembedding⟩ := h
        exact hempty ⟨found, (List.getLast?_cons_cons ..).trans hfound, hembedding⟩
      · rw [fillAll, fillAll, isEmpty_fill, isEmpty_fill]

/-- **A star means every column by its name.**  At the root, and at any depth below embeddings and
spreads, with any nodes beside them, a star gives the shape that the names of the columns give, in
the order in which they are declared.  The first and the last column of a name have to agree, which
they do where no name is declared twice; and directly below an embedding there has to be a column,
because an embedding without nodes is left out. -/
theorem star_eq_spelled (hcheck : schema.check = .ok ()) {top : Relation}
    (htop : top ∈ schema.relations) {openings : List Opening}
    (hopens : Opens schema top openings relation) (hsettled : relation.Settled schema)
    (hcolumns : BelowEmbedding openings → relation.columns ≠ []) :
    ∃ shape, build (.of schema) top.name (fillAll [.star] openings) = .ok shape ∧
      build (.of schema) top.name (fillAll (spelled relation) openings) = .ok shape := by
  have hconsistent := Schema.check_eq_ok_iff.mp hcheck
  have hroot : schema.relation? top.name = some top :=
    (Schema.relation?_eq_some_iff hconsistent.distinct).mpr ⟨htop, rfl⟩
  have hempty : BelowEmbedding openings → [Node.star].isEmpty = (spelled relation).isEmpty := by
    intro hbelow
    have hsome := hcolumns hbelow
    simpa [spelled] using hsome
  have hlevel := ofLevel_fillAll hopens (ofLevel_star hsettled) hempty
  refine ⟨ofLevel (.of schema) top (fillAll [.star] openings), ?_, ?_⟩
  · unfold build
    rw [Schema.Index.relation?_of, hroot]
  · unfold build
    rw [Schema.Index.relation?_of, hroot, hlevel]

/-- The reader of the message that a reply answers, among columns of the two. -/
def readerOpened : List Opening := [
  .spread [.star] (.embedding "message" none none false) [],
  .embedding [.field (.column "id") []] (.embedding "reader" none none false) [.star]]

/-- Every column of the reader may be asked for with a star or by name. -/
theorem star_eq_spelled_reader :
    Schema.check ⟨[people, messages, replies], []⟩ = .ok () ∧
      Opens ⟨[people, messages, replies], []⟩ replies readerOpened people ∧
      people.Settled ⟨[people, messages, replies], []⟩ ∧ BelowEmbedding readerOpened ∧
      ∃ shape,
        build (.of ⟨[people, messages, replies], []⟩) "replies"
            (fillAll [.star] readerOpened) = .ok shape ∧
          build (.of ⟨[people, messages, replies], []⟩) "replies"
            (fillAll [.field (.column "id") [], .field (.column "name") []] readerOpened) =
              .ok shape := by
  have hcheck : Schema.check ⟨[people, messages, replies], []⟩ = .ok () := rfl
  have hmessage : Reaches (.of ⟨[people, messages, replies], []⟩) replies
      (.embedding "message" none none false)
      ⟨⟨"replies_message_fkey", ["message"], "messages", ["id"], false⟩, .forward, "replies",
        "messages", .byName⟩ messages := ⟨rfl, rfl⟩
  have hreader : Reaches (.of ⟨[people, messages, replies], []⟩) messages
      (.embedding "reader" none none false)
      ⟨⟨"messages_reader_fkey", ["reader"], "people", ["id"], false⟩, .forward, "messages",
        "people", .byName⟩ people := ⟨rfl, rfl⟩
  have hopens : Opens ⟨[people, messages, replies], []⟩ replies readerOpened people :=
    .inside hmessage (.inside hreader (.here people))
  have hsettled : people.Settled ⟨[people, messages, replies], []⟩ :=
    Relation.settled_of_nodup (by decide) _
  refine ⟨hcheck, hopens, hsettled, ⟨_, rfl, rfl⟩, ?_⟩
  exact star_eq_spelled hcheck (by simp) hopens hsettled fun _ => List.cons_ne_nil _ _

/-! ### Where a star means more, or something else -/

/-- A relation that declares a name twice. -/
def accounts : Relation :=
  ⟨"accounts", .table, [⟨"id", "int8", false⟩, ⟨"id", "text", true⟩], []⟩

/-- A relation of which no column is exposed. -/
def vaults : Relation := ⟨"vaults", .table, [], []⟩

/-- Boxes, each in a vault. -/
def boxes : Relation :=
  ⟨"boxes", .table, [⟨"vault", "int8", false⟩],
    [⟨"boxes_vault_fkey", ["vault"], "vaults", ["id"], false⟩]⟩

/-- The schema passes the check.  For a star the `id` of an account is a text that may be null, and
by its name it is a number that may not.  The vault of a box is an empty row if it is asked for with
a star, and no key at all if its columns are spelled out. -/
theorem star_unlike_spelled :
    Schema.check ⟨[accounts, vaults, boxes], []⟩ = .ok () ∧
      build (.of ⟨[accounts, vaults, boxes], []⟩) "accounts" [.star] ≠
        build (.of ⟨[accounts, vaults, boxes], []⟩) "accounts" (spelled accounts) ∧
      build (.of ⟨[accounts, vaults, boxes], []⟩) "boxes"
          [.field (.embedding "vault" none none false) [.star]] ≠
        build (.of ⟨[accounts, vaults, boxes], []⟩) "boxes"
          [.field (.embedding "vault" none none false) (spelled vaults)] := by
  have hcheck : Schema.check ⟨[accounts, vaults, boxes], []⟩ = .ok () := rfl
  have hstar : build (.of ⟨[accounts, vaults, boxes], []⟩) "accounts" [.star] =
      .ok [("id", .typed (Schema.valueType ⟨[accounts, vaults, boxes], []⟩ "text") true)] := rfl
  have hspelled : build (.of ⟨[accounts, vaults, boxes], []⟩) "accounts" (spelled accounts) =
      .ok [("id", .typed (Schema.valueType ⟨[accounts, vaults, boxes], []⟩ "int8") false)] := rfl
  have hvault : build (.of ⟨[accounts, vaults, boxes], []⟩) "boxes"
      [.field (.embedding "vault" none none false) [.star]] =
        .ok [("vault", .typed (.object []) false)] := rfl
  have hnone : build (.of ⟨[accounts, vaults, boxes], []⟩) "boxes"
      [.field (.embedding "vault" none none false) (spelled vaults)] = .ok [] := rfl
  refine ⟨hcheck, ?_, ?_⟩
  · rw [hstar, hspelled]
    intro h
    have hentry := (Prod.mk.inj (List.cons.inj (Except.ok.inj h)).1).2
    cases (Entry.typed.inj hentry).2
  · rw [hvault, hnone]
    intro h
    cases h

end Shape

end GatewayQuery
