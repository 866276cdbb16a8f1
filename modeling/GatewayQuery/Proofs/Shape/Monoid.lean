/-
Shapes are a monoid under merging.

Associativity fails for lists in which a key may stand twice: of two entries under one key the merge
writes the later one over the earlier, and a write behind both of them meets only the first.  Shapes
that were made by writes and merges have each key once, and such a shape is told by the log of what
was written (`Proofs/Shape/History.lean`): there is only one that follows a given log.  So an
equation between shapes is an equation between logs.  A merge puts one log behind the other, which
is the monoid of lists, and making values nullable goes through a log entry by entry.

That a shape merged into itself stays as it is needs more, for its log grows.  The second copy
brings no new key and no other last entry, so the same shape follows both logs.

A spread writes what its row holds and asks nothing of its level but the shape.  A group of spreads
is therefore a level of its own, and merging that level is splicing them one by one.
-/
import GatewayQuery.Proofs.Shape.History
import GatewayQuery.Proofs.Shape.Writes

namespace GatewayQuery.Shape

open Schema (Index)
open Select (Field Node)

variable {a b c : Shape} {as bs cs : Log}

/-! ### One log, one shape -/

theorem Follows.unique (h : Follows a as) (hother : Follows b as) : a = b :=
  Keyed.ext_of_nodup h.distinct (h.keys.trans hother.keys.symm) fun key =>
    (h.held key).trans (hother.held key).symm

/-- Writing everything once more brings no new key and no other last entry. -/
theorem Follows.again (h : Follows a as) : Follows a (as ++ as) where
  distinct := h.distinct
  keys := by
    have hnone : as.keys.removeAll as.keys = [] := by simp [List.removeAll]
    rw [keys_append, List.eraseDups_append, hnone, List.eraseDups_nil, List.append_nil]
    exact h.keys
  held key := by
    rw [h.held, lastAt_append, Option.or_self]

/-! ### The laws -/

theorem Follows.merge_assoc (ha : Follows a as) (hb : Follows b bs) (hc : Follows c cs) :
    Shape.merge (Shape.merge a b) c = Shape.merge a (Shape.merge b c) := by
  have hleft : Follows (Shape.merge (Shape.merge a b) c) (as ++ (bs ++ cs)) := by
    rw [← List.append_assoc]
    exact (ha.merge hb).merge hc
  exact hleft.unique (ha.merge (hb.merge hc))

theorem Follows.empty_merge (h : Follows a as) : Shape.merge empty a = a :=
  (follows_empty.merge h).unique h

theorem merge_empty (a : Shape) : merge a empty = a := rfl

theorem Follows.merge_self (h : Follows a as) : Shape.merge a a = a :=
  (h.merge h).unique h.again

theorem nullable_nullable (a : Shape) : a.nullable.nullable = a.nullable := by
  induction a with
  | nil => rfl
  | cons field rest ih =>
    show (field.1, field.2.nullable.nullable) :: nullable (nullable rest) =
      (field.1, field.2.nullable) :: nullable rest
    rw [nullable_entry_nullable, ih]

theorem Follows.nullable_merge (ha : Follows a as) (hb : Follows b bs) :
    (Shape.merge a b).nullable = Shape.merge a.nullable b.nullable := by
  have hleft : Follows (Shape.merge a b).nullable
      (Keyed.mapValues Entry.nullable as ++ Keyed.mapValues Entry.nullable bs) := by
    rw [← Keyed.mapValues_append]
    exact (ha.merge hb).nullable
  exact hleft.unique (ha.nullable.merge hb.nullable)

/-- A value of its own is all that becomes nullable: a failure stays what it is, and nothing else
turns into one. -/
theorem Follows.get?_nullable_failed (h : Follows a as) (key : String) (diagnosis : Diagnosis) :
    a.nullable.get? key = some (.failed diagnosis) ↔ a.get? key = some (.failed diagnosis) := by
  have hentry (entry : Entry) : entry.nullable = .failed diagnosis ↔ entry = .failed diagnosis := by
    cases entry <;> simp [Entry.nullable]
  have hlast : lastAt key (Keyed.mapValues Entry.nullable as) =
      (lastAt key as).map Entry.nullable := lastAt_nullable key as
  rw [h.nullable.held, hlast, h.held, Option.map_eq_some_iff]
  simp only [hentry, exists_eq_right]

/-! ### Groups of spreads -/

/-- Spreads of some targets, with the nodes below each. -/
def spreadAll (targets : List (Field × List Node)) : List Node :=
  targets.map fun target => .spread target.1 target.2

variable {index : Index} {relation : Relation}

/-- What spreads write does not hang on the embeddings before them. -/
theorem allWrites_spreadAll (earlier : Resolved) (targets : List (Field × List Node)) :
    allWrites index relation earlier (spreadAll targets) =
      targets.flatMap fun target =>
        spreadWrites relation target.1 (embedding index relation target.1 target.2) := by
  induction targets generalizing earlier with
  | nil => rfl
  | cons target rest ih =>
    show writes index relation earlier (.spread target.1 target.2) ++
      allWrites index relation (earlier ++ []) (spreadAll rest) = _
    rw [List.append_nil, ih, List.flatMap_cons]
    rfl

theorem resolved_spreadAll (targets : List (Field × List Node)) :
    (spreadAll targets).flatMap (resolved index relation) = [] := by
  rw [List.flatMap_eq_nil_iff]
  intro node hmem
  obtain ⟨target, -, rfl⟩ := List.mem_map.mp hmem
  rfl

/-- Spreads that are taken one by one into a level write what their own level holds. -/
theorem Follows.addNodes_spreadAll (h : Follows a as) (embedded : Resolved)
    (targets : List (Field × List Node)) :
    addNodes index relation ⟨a, embedded⟩ (spreadAll targets) =
      ⟨Shape.merge a (ofLevel index relation (spreadAll targets)), embedded⟩ := by
  have hshape : Shape.merge a (allWrites index relation embedded (spreadAll targets)) =
      Shape.merge a (ofLevel index relation (spreadAll targets)) := by
    rw [ofLevel_eq, allWrites_spreadAll, allWrites_spreadAll]
    exact (h.writes _).unique (h.merge (follows_empty.writes _))
  rw [addNodes_eq, resolved_spreadAll, List.append_nil, hshape]

/-- **Shapes are a monoid under merging, and making values nullable goes along with it.**  For
shapes that are made by writes and merges, order of keys included: merging is associative, the empty
shape is neutral on either side, a shape merged into itself stays as it is, what is nullable is not
changed by being made so again, and it makes no difference whether two shapes are made nullable
before or after they are merged, failures being left alone.  So a group of spreads may be spliced
into a level one by one, or be merged with each other first. -/
theorem merge_monoid (first second third : List Edit) :
    let a := Edit.applyAll empty first
    let b := Edit.applyAll empty second
    let c := Edit.applyAll empty third
    merge (merge a b) c = merge a (merge b c) ∧
    merge empty a = a ∧ merge a empty = a ∧
    merge a a = a ∧
    a.nullable.nullable = a.nullable ∧
    (merge a b).nullable = merge a.nullable b.nullable ∧
    (∀ key diagnosis, a.nullable.get? key = some (.failed diagnosis) ↔
      a.get? key = some (.failed diagnosis)) ∧
    ∀ (index : Index) (relation : Relation) (embedded : Resolved)
      (targets : List (Field × List Node)),
      addNodes index relation ⟨a, embedded⟩ (spreadAll targets) =
        ⟨merge a (ofLevel index relation (spreadAll targets)), embedded⟩ := by
  intro a b c
  have ha : Follows a (Edit.recordAll [] first) := follows_empty.edits first
  have hb : Follows b (Edit.recordAll [] second) := follows_empty.edits second
  have hc : Follows c (Edit.recordAll [] third) := follows_empty.edits third
  exact ⟨ha.merge_assoc hb hc, ha.empty_merge, merge_empty a, ha.merge_self, nullable_nullable a,
    ha.nullable_merge hb, ha.get?_nullable_failed, fun _ _ => ha.addNodes_spreadAll⟩

end GatewayQuery.Shape
