/-
What may be null in a row that is spliced in through others.

A spread takes the columns of a related row into its own, and they may be null if that row may be
missing.  Spreads nest: the row may itself take its columns from a further row, and so on to the
column that is asked for in the end.  That column may then be null for any of these reasons: because
it says so, or because one of the rows on the way may be missing, be it the first or the last.

The induction is on the chain.  What it carries is the shape of a level of the chain, which has one
key whatever the number of links behind it; a link does no more than to add its own reason to the
entry there.  A failure is no value that could be null, so it passes through all links as it is.
-/
import GatewayQuery.Proofs.Shape.Parallel
import GatewayQuery.Proofs.Shape.Visibility

namespace GatewayQuery

open Select (Field Node)

/-! ### Reasons to be null add up -/

theorem Entry.within_within (outer inner : Bool) (entry : Entry) :
    (entry.within inner).within outer = entry.within (outer || inner) := by
  cases entry with
  | typed type nullable =>
    show Entry.typed type (outer || (inner || nullable)) = .typed type (outer || inner || nullable)
    rw [Bool.or_assoc]
  | failed diagnosis => rfl

theorem Entry.within_false (entry : Entry) : entry.within false = entry := by
  cases entry with
  | typed type nullable => rfl
  | failed diagnosis => rfl

namespace Shape

/-! ### Chains of spreads -/

/-- A spread of a chain, with the key that it travels. -/
structure Link where
  target : Field
  resolution : Resolution

/-- Whether the row of the link may be missing. -/
def Link.nullable (schema : Schema) (link : Link) : Bool :=
  (link.resolution.cardinality (.of schema) link.target.innerJoin).2

/-- The links lead from one relation to another, each to one row at most. -/
inductive Leads (schema : Schema) : Relation → List Link → Relation → Prop
  | here (relation : Relation) : Leads schema relation [] relation
  | through {relation other last : Relation} {link : Link} {rest : List Link}
      (hreaches : Reaches (.of schema) relation link.target link.resolution other)
      (hone : (link.resolution.cardinality (.of schema) link.target.innerJoin).1 = .one)
      (hrest : Leads schema other rest last) : Leads schema relation (link :: rest) last

/-- A node below spreads of which each is the only node of its level. -/
def spreads : List Field → Node → Node
  | [], node => node
  | target :: rest, node => .spread target [spreads rest node]

variable {schema : Schema} {relation other last : Relation} {links : List Link} {leaf : Field}

theorem ofLevel_singleton {index : Schema.Index} (node : Node) :
    ofLevel index relation [node] = merge empty (writes index relation [] node) := by
  rw [ofLevel_eq, allWrites, allWrites, List.append_nil]

theorem ofLevel_leaf (hleaf : leaf.embedded = false) (below : List Node) :
    ofLevel (.of schema) relation [.field leaf below] =
      [(leaf.outputName, leafEntry schema relation leaf)] := by
  rw [ofLevel_singleton, writes, hleaf, if_neg Bool.false_ne_true, Schema.Index.schema_of]
  rfl

/-- A spread of one row is a level of that row, which may be missing. -/
theorem ofLevel_spread {link : Link} {key : String} {entry : Entry} {children : List Node}
    (hreaches : Reaches (.of schema) relation link.target link.resolution other)
    (hone : (link.resolution.cardinality (.of schema) link.target.innerJoin).1 = .one)
    (hchild : ofLevel (.of schema) other children = [(key, entry)]) :
    ofLevel (.of schema) relation [.spread link.target children] =
      [(key, entry.within (link.nullable schema))] := by
  rw [ofLevel_singleton, writes, embedding_of_reaches hreaches, spreadWrites]
  simp only [hone]
  rw [columns_eq_within, hchild]
  rfl

/-- Down a chain the reasons to be null are those of its links and that of the leaf. -/
theorem ofLevel_spreads (h : Leads schema relation links last) (hleaf : leaf.embedded = false)
    (below : List Node) :
    ofLevel (.of schema) relation [spreads (links.map (·.target)) (.field leaf below)] =
      [(leaf.outputName,
        (leafEntry schema last leaf).within (links.any fun link => link.nullable schema))] := by
  induction h with
  | here relation =>
    rw [List.map_nil, spreads, ofLevel_leaf hleaf, List.any_nil, Entry.within_false]
  | through hreaches hone hrest ih =>
    rw [List.map_cons, spreads, ofLevel_spread hreaches hone ih, Entry.within_within,
      List.any_cons]

/-- **Nullability adds up along spreads.**  A chain of spreads, however long, of which each resolves
to one row at most and is the only node of its level, and which ends in one leaf, gives a shape with
one key, that of the leaf.  A leaf with a type keeps it, and is nullable if it is so itself or if a
row on the way may be missing; a leaf that fails is the failure that it is. -/
theorem nullable_along_spreads {root : String} (hroot : schema.relation? root = some relation)
    (hleads : Leads schema relation links last) (hleaf : leaf.embedded = false)
    (below : List Node) :
    (∀ type nullable, leafType schema last leaf = .ok (type, nullable) →
        build (.of schema) root [spreads (links.map (·.target)) (.field leaf below)] =
          .ok [(leaf.outputName,
            .typed type (nullable || links.any fun link => link.nullable schema))]) ∧
      ∀ failure, leafType schema last leaf = .error failure →
        build (.of schema) root [spreads (links.map (·.target)) (.field leaf below)] =
          .ok [(leaf.outputName, .ofFailure failure)] := by
  have hbuild : build (.of schema) root [spreads (links.map (·.target)) (.field leaf below)] =
      .ok [(leaf.outputName,
        (leafEntry schema last leaf).within (links.any fun link => link.nullable schema))] := by
    unfold build
    rw [Schema.Index.relation?_of, hroot, ← ofLevel_spreads hleads hleaf below]
  constructor
  · intro type nullable htype
    rw [hbuild, leafEntry, htype, Bool.or_comm]
    rfl
  · intro failure hfailure
    rw [hbuild, leafEntry, hfailure]
    rfl

/-- Replies to messages. -/
def replies : Relation :=
  ⟨"replies", .table, [⟨"message", "int8", false⟩],
    [⟨"replies_message_fkey", ["message"], "messages", ["id"], false⟩]⟩

/-- The way from a reply to the reader of the message. -/
def toReader : List Link := [
  ⟨.embedding "message" none none false,
    ⟨⟨"replies_message_fkey", ["message"], "messages", ["id"], false⟩, .forward, "replies",
      "messages", .byName⟩⟩,
  ⟨.embedding "reader" none none false,
    ⟨⟨"messages_reader_fkey", ["reader"], "people", ["id"], false⟩, .forward, "messages",
      "people", .byName⟩⟩]

/-- A reply has a message, but a message may have no reader: so the name of the reader may be null
in the row of the reply, although people have names.  A column that people do not have is reported
under its own name. -/
theorem nullable_along_replies :
    Leads ⟨[people, messages, replies], []⟩ replies toReader people ∧
      build (.of ⟨[people, messages, replies], []⟩) "replies"
          [.spread (.embedding "message" none none false)
            [.spread (.embedding "reader" none none false) [.field (.column "name") []]]] =
        .ok [("name", .typed .string true)] ∧
      build (.of ⟨[people, messages, replies], []⟩) "replies"
          [.spread (.embedding "message" none none false)
            [.spread (.embedding "reader" none none false) [.field (.column "age") []]]] =
        .ok [("age", .ofFailure (.unknownColumn "people" "age"))] := by
  have hleads : Leads ⟨[people, messages, replies], []⟩ replies toReader people :=
    .through ⟨rfl, rfl⟩ rfl (.through ⟨rfl, rfl⟩ rfl (.here people))
  have hroot : Schema.relation? ⟨[people, messages, replies], []⟩ "replies" = some replies := rfl
  have htext : Schema.valueType ⟨[people, messages, replies], []⟩ "text" = .string :=
    Schema.valueTypeOf_scalar rfl rfl
  have hname : leafType ⟨[people, messages, replies], []⟩ people (.column "name") =
      .ok (.string, false) := by
    rw [← htext]
    rfl
  have hage : leafType ⟨[people, messages, replies], []⟩ people (.column "age") =
      .error (.unknownColumn "people" "age") := rfl
  refine ⟨hleads, ?_, ?_⟩
  · exact (nullable_along_spreads hroot hleads rfl []).1 .string false hname
  · exact (nullable_along_spreads hroot hleads rfl []).2 _ hage

end Shape

end GatewayQuery
