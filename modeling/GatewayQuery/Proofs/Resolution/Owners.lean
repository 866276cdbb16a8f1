/-
Whether a hint can name the owner of a key.

A key that goes out can be hinted by the relation that it points at.  For a key that comes in, the
relation on the other side is its owner, and one would expect the hint to name that.  But the rule
looks at the relation pointed at whichever way a key is met, and for a key that comes in this is the
current relation.

So the keys that come in fulfil the rule all together, if the hint is the name of the current
relation, or not at all.  In the first case the first of them is meant and found.  In the second the
rule passes over the key that is meant: it takes a key that goes out towards the hinted relation,
and if there is none the column rule is left, which finds the key only if its column happens to be
called like its owner.
-/
import GatewayQuery.Proofs.Resolution.Hints
import Mathlib.Data.List.Find

namespace GatewayQuery

namespace Resolution

open Schema (Edge)

variable {schema : Schema} {current target hint : String}

/-- A key is hinted by the relation that it points at, or, if it comes in, by its owner. -/
def HintsRelation (hint : String) (join : Edge × Direction) : Prop :=
  join.1.key.referenced = hint ∨ (join.2 = .reverse ∧ join.1.owner = hint)

instance (hint : String) (join : Edge × Direction) : Decidable (HintsRelation hint join) :=
  inferInstanceAs (Decidable (_ ∨ _))

/-- The key that is meant by a relation: the first that it hints. -/
def meant (schema : Schema) (current target hint : String) : Option (Edge × Direction) :=
  (joining schema current target).find? fun join => decide (HintsRelation hint join)

/-! ### The key that is meant -/

/-- Where the hint owns a key that comes in, the key that is meant comes in. -/
theorem exists_meant {owned : Edge} (howned : (owned, .reverse) ∈ comingIn schema current target)
    (howner : owned.owner = hint) :
    ∃ edge, meant schema current target hint = some (edge, .reverse) ∧
      (edge, .reverse) ∈ comingIn schema current target := by
  have hsome : ((comingIn schema current target).find? fun join =>
      decide (HintsRelation hint join)).isSome = true :=
    List.find?_isSome.mpr ⟨_, howned, decide_eq_true (.inr ⟨rfl, howner⟩)⟩
  obtain ⟨⟨edge, direction⟩, hfind⟩ := Option.isSome_iff_exists.mp hsome
  have hmem := List.mem_of_find?_eq_some hfind
  obtain ⟨rfl, -⟩ := mem_comingIn hmem
  refine ⟨edge, ?_, hmem⟩
  rw [meant, joining, List.find?_append, hfind, Option.some_or]

/-- If the hint is the current relation, all that comes in points at it, so the key that is meant is
the first one that points there. -/
theorem meant_current :
    meant schema current target current =
      (joining schema current target).find? fun join => join.1.key.referenced == current := by
  refine List.find?_congr ?_
  intro join hmem
  obtain ⟨edge, direction⟩ := join
  rcases List.mem_append.mp hmem with hin | hout
  · obtain ⟨-, hreferenced, -⟩ := mem_comingIn hin
    simp [HintsRelation, hreferenced]
  · obtain ⟨rfl, -, -⟩ := mem_goingOut hout
    simp [HintsRelation, Bool.beq_eq_decide_eq]

/-- If the hint is another relation, it owns the key that is meant. -/
theorem owner_of_meant {edge : Edge} (hother : hint ≠ current)
    (hedge : (edge, .reverse) ∈ comingIn schema current target)
    (h : meant schema current target hint = some (edge, .reverse)) : edge.owner = hint := by
  have hhints : HintsRelation hint (edge, .reverse) := by
    simpa using List.find?_some h
  rcases hhints with hreferenced | ⟨-, howner⟩
  · obtain ⟨-, hcurrent, -⟩ := mem_comingIn hedge
    exact absurd (hreferenced.symm.trans hcurrent) hother
  · exact howner

/-! ### The key that is found -/

/-- A rule that no key fulfils leads nowhere. -/
theorem ruled_eq_none {rule : ForeignKey → Bool}
    (h : ∀ join ∈ joining schema current target, rule join.1.key = false) :
    ruled schema current target rule = none := by
  have hfind : ((joining schema current target).find? fun join => rule join.1.key) = none := by
    simpa using h
  rw [ruled, hfind, Option.bind_none]

/-- A hint that names no constraint is looked for among the relations pointed at, and then among the
columns. -/
theorem byHint_of_unnamed
    (hunnamed : ∀ join ∈ joining schema current target, join.1.key.name ≠ hint) :
    byHint (.of schema) current target hint =
      (ruled schema current target fun key => key.referenced == hint).or
        (ruled schema current target fun key => key.isColumn hint) := by
  have hname : ruled schema current target (fun key => key.name == hint) = none :=
    ruled_eq_none fun join hmem => beq_false_of_ne (hunnamed join hmem)
  rw [byHint_eq_findSome?, hintRules, List.findSome?_cons, hname]
  cases hreferenced : ruled schema current target fun key => key.referenced == hint with
  | some resolution => simp [hreferenced]
  | none => cases hcolumn : ruled schema current target fun key => key.isColumn hint <;>
      simp [hreferenced, hcolumn]

/-- If keys point at another relation, the first of them that goes out is taken for a hint of that
relation. -/
theorem ruled_referenced (hcurrent : schema.Has current) (hhas : schema.Has hint)
    (hother : hint ≠ current)
    (h : ∃ join ∈ joining schema current target, join.1.key.referenced = hint) :
    ∃ edge, edge.key.referenced = hint ∧
      ruled schema current target (fun key => key.referenced == hint) =
        some (travelled current edge .forward) := by
  obtain ⟨join, hmem, hreferenced⟩ := h
  have hsome : ((joining schema current target).find? fun join =>
      join.1.key.referenced == hint).isSome = true :=
    List.find?_isSome.mpr ⟨join, hmem, beq_iff_eq.mpr hreferenced⟩
  obtain ⟨⟨edge, direction⟩, hfind⟩ := Option.isSome_iff_exists.mp hsome
  have hpoints : edge.key.referenced = hint := by simpa using List.find?_some hfind
  rcases List.mem_append.mp (List.mem_of_find?_eq_some hfind) with hin | hout
  · obtain ⟨-, hback, -⟩ := mem_comingIn hin
    exact absurd (hpoints.symm.trans hback) hother
  · obtain ⟨rfl, -, -⟩ := mem_goingOut hout
    have hfar : schema.Has (farEnd edge .forward) := by
      show schema.Has edge.key.referenced
      rw [hpoints]
      exact hhas
    exact ⟨edge, hpoints, (ruled_eq_some_iff hcurrent).mpr ⟨edge, .forward, hfind, hfar, rfl⟩⟩

/-- Going back to another relation along a key is only possible by that key, as it comes in. -/
theorem eq_of_travelled {edge other : Edge} {direction : Direction}
    (howner : edge.owner ≠ current) (hmem : (other, direction) ∈ joining schema current target)
    (h : ⟨edge.key, .reverse, current, edge.owner, .byHint⟩ = travelled current other direction) :
    (other, direction) = (edge, .reverse) := by
  obtain ⟨hkey, hdirection, -, hfar, -⟩ := Resolution.mk.inj h
  rcases List.mem_append.mp hmem with hin | hout
  · obtain ⟨rfl, -, -⟩ := mem_comingIn hin
    obtain ⟨owner, key⟩ := edge
    obtain ⟨otherOwner, otherKey⟩ := other
    obtain rfl : owner = otherOwner := hfar
    obtain rfl : key = otherKey := hkey
    rfl
  · obtain ⟨rfl, hother, -⟩ := mem_goingOut hout
    -- a key that goes out is only travelled backward if it leads back to the current relation
    by_cases hself : other.owner = other.key.referenced
    · exact absurd (hfar.trans (hself.symm.trans hother)) howner
    · rw [if_neg hself] at hdirection
      cases hdirection

/-- The key that is meant, followed back to its owner. -/
theorem travelled_reverse (current : String) (edge : Edge) :
    travelled current edge .reverse = ⟨edge.key, .reverse, current, edge.owner, .byHint⟩ := by
  rw [travelled, ite_self]
  rfl

/-- A hint that is the current relation finds the key that is meant. -/
theorem byHint_current {edge : Edge} (hcurrent : schema.Has current)
    (hunnamed : ∀ join ∈ joining schema current target, join.1.key.name ≠ current)
    (hfar : schema.Has edge.owner)
    (hmeant : meant schema current target current = some (edge, .reverse)) :
    byHint (.of schema) current target current =
      some ⟨edge.key, .reverse, current, edge.owner, .byHint⟩ := by
  rw [meant_current] at hmeant
  rw [byHint_of_unnamed hunnamed,
    (ruled_eq_some_iff hcurrent).mpr ⟨edge, .reverse, hmeant, hfar, rfl⟩, Option.some_or,
    travelled_reverse]

/-- A hint that is another relation finds the key that is meant only through its column. -/
theorem byHint_other_iff {edge : Edge} (hcurrent : schema.Has current) (hhas : schema.Has hint)
    (hother : hint ≠ current)
    (hunnamed : ∀ join ∈ joining schema current target, join.1.key.name ≠ hint)
    (hedge : (edge, .reverse) ∈ comingIn schema current target)
    (hmeant : meant schema current target hint = some (edge, .reverse)) :
    byHint (.of schema) current target hint =
        some ⟨edge.key, .reverse, current, edge.owner, .byHint⟩ ↔
      (∀ join ∈ joining schema current target, join.1.key.referenced ≠ hint) ∧
        ((joining schema current target).find? fun join => join.1.key.isColumn hint) =
          some (edge, .reverse) := by
  obtain ⟨-, hback, hfar⟩ := mem_comingIn hedge
  have howner : edge.owner ≠ current := owner_of_meant hother hedge hmeant ▸ hother
  rw [byHint_of_unnamed hunnamed]
  by_cases hpointed : ∃ join ∈ joining schema current target, join.1.key.referenced = hint
  · obtain ⟨taken, hpoints, hruled⟩ := ruled_referenced hcurrent hhas hother hpointed
    rw [hruled, Option.some_or]
    refine iff_of_false ?_ ?_
    · intro h
      have hkey : taken.key = edge.key := congrArg Resolution.key (Option.some.inj h)
      exact hother (hpoints.symm.trans (hkey ▸ hback))
    · intro h
      obtain ⟨join, hjoin, hreferenced⟩ := hpointed
      exact h.1 join hjoin hreferenced
  · have hunpointed : ∀ join ∈ joining schema current target, join.1.key.referenced ≠ hint :=
      fun join hjoin h => hpointed ⟨join, hjoin, h⟩
    have hnone : ruled schema current target (fun key => key.referenced == hint) = none :=
      ruled_eq_none fun join hjoin => beq_false_of_ne (hunpointed join hjoin)
    rw [hnone, Option.none_or, ruled_eq_some_iff hcurrent]
    constructor
    · intro h
      obtain ⟨found, direction, hfind, -, hsame⟩ := h
      have hfound : (found, direction) = (edge, .reverse) :=
        eq_of_travelled howner (List.mem_of_find?_eq_some hfind) hsame
      exact ⟨hunpointed, hfound ▸ hfind⟩
    · intro h
      exact ⟨edge, .reverse, h.2, hfar, (travelled_reverse current edge).symm⟩

end Resolution

open Resolution

variable {schema : Schema} {current hint : String} {field : Select.Field}

/-- **When a hint finds the key that it names the owner of.**  Let a hint that names no constraint
own a key that comes in, so that a key that comes in is the first one that the hint could mean.  It
is found if the hint is the current relation.  Otherwise it is found only by accident: no key points
at the hint, and the key that is meant is the first whose only column is called like the hint. -/
theorem owner_hint_iff (hcurrent : schema.Has current) (hhint : field.hint = some hint)
    (hunnamed : ∀ join ∈ joining schema current field.name, join.1.key.name ≠ hint)
    (howned : ∃ join ∈ joining schema current field.name,
      join.2 = .reverse ∧ join.1.owner = hint) :
    ∃ edge, meant schema current field.name hint = some (edge, .reverse) ∧
      (resolve (.of schema) current field =
          .ok ⟨edge.key, .reverse, current, edge.owner, .byHint⟩ ↔
        hint = current ∨
          (∀ join ∈ joining schema current field.name, join.1.key.referenced ≠ hint) ∧
            ((joining schema current field.name).find? fun join => join.1.key.isColumn hint) =
              some (edge, .reverse)) := by
  obtain ⟨⟨owned, direction⟩, hmem, rfl, howner⟩ := howned
  have hin : (owned, .reverse) ∈ comingIn schema current field.name := by
    rcases List.mem_append.mp hmem with hin | hout
    · exact hin
    · cases (mem_goingOut hout).1
  obtain ⟨edge, hmeant, hedge⟩ := exists_meant hin howner
  refine ⟨edge, hmeant, ?_⟩
  rw [resolve_hinted_iff hhint]
  by_cases hself : hint = current
  · subst hself
    exact iff_of_true (byHint_current hcurrent hunnamed (mem_comingIn hedge).2.2 hmeant) (.inl rfl)
  · have hhas : schema.Has hint := howner ▸ (mem_comingIn hin).2.2
    rw [byHint_other_iff hcurrent hhas hself hunnamed hedge hmeant, or_iff_right hself]

/-- Messages that are sent by users. -/
def Schema.mailbox : Schema where
  relations := [
    ⟨"users", .table, [⟨"id", "int8", false⟩], []⟩,
    ⟨"messages", .table, [⟨"id", "int8", false⟩, ⟨"sender_id", "int8", false⟩],
      [⟨"messages_sender_id_fkey", ["sender_id"], "users", ["id"], false⟩]⟩]
  enums := []

/-- The messages of a user are joined by one key, which messages own, and the hint that says so does
not find it. -/
theorem owner_hint_lost :
    (Schema.mailbox.relations.map (·.name)).Nodup ∧ Schema.mailbox.Has "users" ∧
      (∀ join ∈ joining .mailbox "users" "messages", join.1.key.name ≠ "messages") ∧
      meant .mailbox "users" "messages" "messages" =
        some (⟨"messages", ⟨"messages_sender_id_fkey", ["sender_id"], "users", ["id"], false⟩⟩,
          .reverse) ∧
      resolve (.of .mailbox) "users" (.embedding "messages" none (some "messages") false) ≠
        .ok ⟨⟨"messages_sender_id_fkey", ["sender_id"], "users", ["id"], false⟩, .reverse, "users",
          "messages", .byHint⟩ := by
  have husers : Schema.mailbox.Has "users" := by decide
  have hhint : (Select.Field.embedding "messages" none (some "messages") false).hint =
      some "messages" := rfl
  have hunnamed : ∀ join ∈ joining .mailbox "users" "messages", join.1.key.name ≠ "messages" := by
    decide
  have hsender : meant .mailbox "users" "messages" "messages" =
      some (⟨"messages", ⟨"messages_sender_id_fkey", ["sender_id"], "users", ["id"], false⟩⟩,
        .reverse) := by decide
  obtain ⟨edge, hmeant, hfound⟩ := owner_hint_iff husers hhint hunnamed (by decide)
  obtain ⟨rfl, -⟩ := Prod.mk.inj (Option.some.inj (hmeant.symm.trans hsender))
  refine ⟨by decide, husers, hunnamed, hsender, ?_⟩
  intro hresolves
  rcases hfound.mp hresolves with hself | ⟨-, hcolumn⟩
  · exact absurd hself (by decide)
  · exact absurd hcolumn (by decide)

end GatewayQuery
