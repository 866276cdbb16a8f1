/-
What a hint leads to.

A hint chooses among the keys that join the current relation to the target, those that come in
before those that go out, each in the order of declaration.  Three rules are tried on this list, and
a rule stands or falls with the first key that fulfils it: if that key leads out of the schema, no
later key is looked at, and the next rule has its turn.  So a hint can miss a key that bears it and
could be followed, but only behind one that bears it in the same way and could not.

Only keys that go out can lead out of the schema, and only if the target is no relation: a key that
comes in has an owner, and a key between two relations leads to one.  So between relations no key is
missed.

The name of a constraint is the first rule, and where such names are distinct no other key fulfils
it.  A hint of this kind leads along its key from either end, whatever else bears the same text.
-/
import GatewayQuery.Proofs.Resolution.Suggestions

namespace GatewayQuery

namespace Resolution

open Schema (Index Edge)
open Select (Field)

variable {schema : Schema} {current target hint : String}

/-! ### The keys to choose from -/

/-- The keys that point at the current relation, from the target if that is a relation, in the order
of declaration. -/
def comingIn (schema : Schema) (current target : String) : List (Edge × Direction) :=
  (schema.edges.filter fun edge =>
    edge.key.referenced = current ∧ (schema.Has target → edge.owner = target)).map (·, .reverse)

/-- The keys that the current relation declares, towards the target if that is a relation, in the
order of declaration. -/
def goingOut (schema : Schema) (current target : String) : List (Edge × Direction) :=
  (schema.edges.filter fun edge =>
    edge.owner = current ∧ (schema.Has target → edge.key.referenced = target)).map (·, .forward)

/-- The keys that a hint chooses from.  A key from a relation to itself is among them twice. -/
def joining (schema : Schema) (current target : String) : List (Edge × Direction) :=
  comingIn schema current target ++ goingOut schema current target

theorem connecting_of : connecting (.of schema) current target = joining schema current target := by
  unfold connecting joining comingIn goingOut
  rw [Index.relation?_of, Index.incoming_of, Index.outgoing_of]
  by_cases hknown : schema.Has target
  · obtain ⟨relation, hsome, -⟩ := Schema.relation?_of_has hknown
    simp [hsome, hknown, List.filter_filter, Bool.and_comm, Bool.beq_eq_decide_eq]
  · simp [Schema.relation?_eq_none_iff.mpr hknown, hknown, Bool.beq_eq_decide_eq]

/-- A key that comes in leads back to its owner, which is a relation. -/
theorem mem_comingIn {edge : Edge} {direction : Direction}
    (h : (edge, direction) ∈ comingIn schema current target) :
    direction = .reverse ∧ edge.key.referenced = current ∧ schema.Has edge.owner := by
  obtain ⟨found, hfound, hsame⟩ := List.mem_map.mp h
  obtain ⟨rfl, rfl⟩ := Prod.mk.inj hsame
  obtain ⟨hedge, hends⟩ := List.mem_filter.mp hfound
  exact ⟨rfl, (of_decide_eq_true hends).1, (Schema.mem_edges_iff.mp hedge).has⟩

theorem mem_goingOut {edge : Edge} {direction : Direction}
    (h : (edge, direction) ∈ goingOut schema current target) :
    direction = .forward ∧ edge.owner = current ∧
      (schema.Has target → edge.key.referenced = target) := by
  obtain ⟨found, hfound, hsame⟩ := List.mem_map.mp h
  obtain ⟨rfl, rfl⟩ := Prod.mk.inj hsame
  obtain ⟨-, hends⟩ := List.mem_filter.mp hfound
  exact ⟨rfl, of_decide_eq_true hends⟩

/-- A key between two relations leads to one. -/
theorem has_farEnd_between {join : Edge × Direction} (hknown : schema.Has target)
    (h : join ∈ joining schema current target) : schema.Has (farEnd join.1 join.2) := by
  obtain ⟨edge, direction⟩ := join
  rcases List.mem_append.mp h with hin | hout
  · obtain ⟨rfl, -, howner⟩ := mem_comingIn hin
    exact howner
  · obtain ⟨rfl, -, htarget⟩ := mem_goingOut hout
    show schema.Has edge.key.referenced
    rw [htarget hknown]
    exact hknown

/-! ### Where the rules lead -/

/-- Where a rule leads: along the first key that fulfils it, if that can be followed. -/
def ruled (schema : Schema) (current target : String) (rule : ForeignKey → Bool) :
    Option Resolution :=
  ((joining schema current target).find? fun join => rule join.1.key).bind fun join =>
    follow (.of schema) current join.1 join.2

/-- The first rule that leads anywhere decides. -/
theorem byHint_eq_findSome? :
    byHint (.of schema) current target hint =
      (hintRules hint).findSome? (ruled schema current target) := by
  unfold byHint ruled
  rw [connecting_of]

theorem ruled_eq_some_iff (hcurrent : schema.Has current) {rule : ForeignKey → Bool}
    {resolution : Resolution} :
    ruled schema current target rule = some resolution ↔
      ∃ edge direction,
        ((joining schema current target).find? fun join => rule join.1.key) =
          some (edge, direction) ∧
        schema.Has (farEnd edge direction) ∧ resolution = travelled current edge direction := by
  unfold ruled
  rw [Option.bind_eq_some_iff]
  constructor
  · intro h
    obtain ⟨⟨edge, direction⟩, hfind, hfollow⟩ := h
    exact ⟨edge, direction, hfind, (follow_eq_some_iff.mp hfollow).2⟩
  · intro h
    obtain ⟨edge, direction, hfind, hfar⟩ := h
    exact ⟨(edge, direction), hfind, follow_eq_some_iff.mpr ⟨hcurrent, hfar⟩⟩

/-- A hint leads somewhere if a rule does: if the first key that fulfils it leads to a relation. -/
theorem exists_byHint_iff (hcurrent : schema.Has current) :
    (∃ resolution, byHint (.of schema) current target hint = some resolution) ↔
      ∃ rule ∈ hintRules hint, ∃ join,
        ((joining schema current target).find? fun join => rule join.1.key) = some join ∧
          schema.Has (farEnd join.1 join.2) := by
  rw [byHint_eq_findSome?, ← Option.isSome_iff_exists, List.findSome?_isSome_iff]
  refine exists_congr fun rule => and_congr_right fun _ => ?_
  rw [Option.isSome_iff_exists]
  constructor
  · intro h
    obtain ⟨resolution, hruled⟩ := h
    obtain ⟨edge, direction, hfind, hfar, -⟩ := (ruled_eq_some_iff hcurrent).mp hruled
    exact ⟨(edge, direction), hfind, hfar⟩
  · intro h
    obtain ⟨join, hfind, hfar⟩ := h
    exact ⟨_, (ruled_eq_some_iff hcurrent).mpr ⟨join.1, join.2, hfind, hfar, rfl⟩⟩

/-! ### The first key that fulfils a rule -/

/-- The first item that fulfils a rule is also good, exactly if some item is that is not preceded by
one that fulfils the rule and is bad. -/
theorem find?_good_iff {α : Type} {p : α → Bool} {Good : α → Prop} {items : List α} :
    (∃ item, items.find? p = some item ∧ Good item) ↔
      ∃ before item after, items = before ++ item :: after ∧ p item = true ∧ Good item ∧
        ∀ earlier ∈ before, p earlier = true → Good earlier := by
  constructor
  · intro h
    obtain ⟨item, hfind, hgood⟩ := h
    obtain ⟨hitem, before, after, hsplit, hbefore⟩ := List.find?_eq_some_iff_append.mp hfind
    refine ⟨before, item, after, hsplit, hitem, hgood, ?_⟩
    intro earlier hmem hearlier
    exact absurd hearlier (by simpa using hbefore earlier hmem)
  · intro h
    obtain ⟨before, item, after, rfl, hitem, hgood, hbefore⟩ := h
    rw [List.find?_append]
    cases hfind : before.find? p with
    | some first =>
      exact ⟨first, rfl, hbefore first (List.mem_of_find?_eq_some hfind) (List.find?_some hfind)⟩
    | none => exact ⟨item, by rw [List.find?_cons_of_pos hitem]; rfl, hgood⟩

end Resolution

open Resolution

variable {schema : Schema} {current hint : String} {field : Select.Field}

/-- A field with a hint resolves to what the hint means. -/
theorem resolve_hinted_iff {index : Schema.Index} {resolution : Resolution}
    (hhint : field.hint = some hint) :
    resolve index current field = .ok resolution ↔
      byHint index current field.name hint = some resolution := by
  rw [resolve_eq_ok_iff]
  constructor
  · intro h
    rcases h with ⟨hnone, -⟩ | ⟨found, hfound, hresolves⟩
    · rw [hhint] at hnone
      cases hnone
    · rw [hhint] at hfound
      obtain rfl := Option.some.inj hfound
      exact hresolves
  · intro h
    exact .inr ⟨hint, hhint, h⟩

/-- **When a hint is found.**  There has to be a key that bears the hint in one of the three ways
and leads to a relation of the schema, and no key before it may bear the hint in the same way and
lead to none. -/
theorem hint_found_iff (hcurrent : schema.Has current) (hhint : field.hint = some hint) :
    (∃ resolution, resolve (.of schema) current field = .ok resolution) ↔
      ∃ rule ∈ hintRules hint, ∃ before join after,
        joining schema current field.name = before ++ join :: after ∧
          rule join.1.key = true ∧ schema.Has (farEnd join.1 join.2) ∧
          ∀ earlier ∈ before, rule earlier.1.key = true →
            schema.Has (farEnd earlier.1 earlier.2) := by
  simp only [resolve_hinted_iff hhint, exists_byHint_iff hcurrent, find?_good_iff]

/-- Posts whose author is an account, of which the schema shows nothing, and a user. -/
def Schema.journal : Schema where
  relations := [
    ⟨"users", .table, [⟨"id", "int8", false⟩], []⟩,
    ⟨"posts", .table, [⟨"id", "int8", false⟩, ⟨"author_id", "int8", false⟩],
      [⟨"posts_account_fkey", ["author_id"], "accounts", ["id"], false⟩,
        ⟨"posts_user_fkey", ["author_id"], "users", ["id"], false⟩]⟩]
  enums := []

/-- The column of an author leads to a user by one key, and is not found: the key in front of it has
the same column and leads to a relation that is not there. -/
theorem hint_lost_to_absent_relation :
    Schema.journal.check = .ok () ∧ Schema.journal.Has "posts" ∧
      (∃ join ∈ joining .journal "posts" "author",
        join.1.key.isColumn "author_id" = true ∧
          Schema.journal.Has (farEnd join.1 join.2)) ∧
      ¬∃ resolution,
        resolve (.of .journal) "posts" (.embedding "author" none (some "author_id") false) =
          .ok resolution := by
  have hposts : Schema.journal.Has "posts" := by decide
  refine ⟨rfl, hposts, by decide, ?_⟩
  intro hresolves
  obtain ⟨rule, hrule, before, join, after, hsplit, hholds, hfar, hbefore⟩ :=
    (hint_found_iff hposts rfl).mp hresolves
  have hmem : join ∈ joining .journal "posts" "author" :=
    hsplit ▸ List.mem_append_right before List.mem_cons_self
  have hcolumn : ∀ join ∈ joining .journal "posts" "author",
      join.1.key.name ≠ "author_id" ∧ join.1.key.referenced ≠ "author_id" := by decide
  obtain ⟨hname, hreferenced⟩ := hcolumn join hmem
  simp only [hintRules, List.mem_cons, List.not_mem_nil, or_false] at hrule
  rcases hrule with rfl | rfl | rfl
  · exact hname (beq_iff_eq.mp hholds)
  · exact hreferenced (beq_iff_eq.mp hholds)
  · -- whichever key is found, the first one is in front of it or is the key itself
    cases before with
    | nil =>
      obtain ⟨rfl, -⟩ := List.cons.inj hsplit
      exact absurd hfar (by decide)
    | cons first rest =>
      obtain ⟨rfl, -⟩ := List.cons.inj hsplit
      exact absurd (hbefore _ List.mem_cons_self rfl) (by decide)

/-- **Between two relations a hint is found whenever a key between them bears it.**  No key there
leads out of the schema, so none that bears the hint hides another. -/
theorem hint_found_between (hcurrent : schema.Has current) (hknown : schema.Has field.name)
    (hhint : field.hint = some hint) :
    (∃ resolution, resolve (.of schema) current field = .ok resolution) ↔
      ∃ rule ∈ hintRules hint, ∃ join ∈ joining schema current field.name,
        rule join.1.key = true := by
  simp only [resolve_hinted_iff hhint, exists_byHint_iff hcurrent]
  refine exists_congr fun rule => and_congr_right fun _ => ?_
  constructor
  · intro h
    obtain ⟨join, hfind, -⟩ := h
    exact ⟨join, List.mem_of_find?_eq_some hfind, by simpa using List.find?_some hfind⟩
  · intro h
    obtain ⟨join, hmem, hholds⟩ := h
    have hsome : ((joining schema current field.name).find? fun join =>
        rule join.1.key).isSome = true := List.find?_isSome.mpr ⟨join, hmem, hholds⟩
    obtain ⟨found, hfind⟩ := Option.isSome_iff_exists.mp hsome
    exact ⟨found, hfind, has_farEnd_between hknown (List.mem_of_find?_eq_some hfind)⟩

/-- **A hint that names a constraint leads along its key, from either end.**  Where constraints have
different names it makes no difference what else there is: other keys between the two relations or
at one of them, columns and relations that are called like the constraint, and whether the field
bears the name of the other relation or of none. -/
theorem constraint_hint_selects {owner : String} {key : ForeignKey}
    (hapart : schema.NamesKeysApart) (hdeclares : schema.Declares owner key)
    (hknown : schema.Has key.referenced) (hhint : field.hint = some key.name) :
    (field.name = key.referenced ∨ ¬schema.Has field.name →
      resolve (.of schema) owner field =
        .ok ⟨key, if owner = key.referenced then .reverse else .forward, owner, key.referenced,
          .byHint⟩) ∧
      (field.name = owner ∨ ¬schema.Has field.name →
        resolve (.of schema) key.referenced field =
          .ok ⟨key, .reverse, key.referenced, owner, .byHint⟩) := by
  have hedge : ⟨owner, key⟩ ∈ schema.edges := Schema.mem_edges_iff.mpr hdeclares
  constructor
  · intro htarget
    have hjoins : (⟨owner, key⟩, .forward) ∈ connecting (.of schema) owner field.name :=
      mem_connecting_iff.mpr
        ⟨hedge, .inr ⟨rfl, fun h => (htarget.resolve_right (not_not.mpr h)).symm, rfl⟩⟩
    exact (resolve_hinted_iff hhint).mpr
      (byHint_name hapart hjoins (follow_eq_some_iff.mpr ⟨hdeclares.has, hknown, rfl⟩))
  · intro htarget
    have hjoins : (⟨owner, key⟩, .reverse) ∈ connecting (.of schema) key.referenced field.name :=
      mem_connecting_iff.mpr
        ⟨hedge, .inl ⟨rfl, fun h => (htarget.resolve_right (not_not.mpr h)).symm, rfl⟩⟩
    exact (resolve_hinted_iff hhint).mpr
      (byHint_name hapart hjoins (follow_reverse.mpr ⟨hknown, hdeclares.has, rfl⟩))

/-- Posts whose key of the author is called like the column of the editor, and like a relation that
this column points at. -/
def Schema.magazine : Schema where
  relations := [
    ⟨"users", .table, [⟨"id", "int8", false⟩], []⟩,
    ⟨"editor", .view, [⟨"id", "int8", false⟩], []⟩,
    ⟨"posts", .table,
      [⟨"id", "int8", false⟩, ⟨"author", "int8", false⟩, ⟨"editor", "int8", false⟩,
        ⟨"reply_to", "int8", true⟩],
      [⟨"posts_editor_fkey", ["editor"], "editor", ["id"], false⟩,
        ⟨"posts_user_fkey", ["editor"], "users", ["id"], false⟩,
        ⟨"editor", ["author"], "users", ["id"], false⟩,
        ⟨"posts_reply_to_fkey", ["reply_to"], "posts", ["id"], false⟩]⟩]
  enums := []

/-- The author is found from the post and the posts from the author, and replies are always found
from the post that they reply to. -/
theorem constraint_hint_selects_editor :
    Schema.magazine.check = .ok () ∧ Schema.magazine.NamesKeysApart ∧
      resolve (.of .magazine) "posts" (.embedding "users" none (some "editor") false) =
        .ok ⟨⟨"editor", ["author"], "users", ["id"], false⟩, .forward, "posts", "users",
          .byHint⟩ ∧
      resolve (.of .magazine) "users" (.embedding "written" none (some "editor") false) =
        .ok ⟨⟨"editor", ["author"], "users", ["id"], false⟩, .reverse, "users", "posts",
          .byHint⟩ ∧
      resolve (.of .magazine) "posts"
          (.embedding "replies" none (some "posts_reply_to_fkey") false) =
        .ok ⟨⟨"posts_reply_to_fkey", ["reply_to"], "posts", ["id"], false⟩, .reverse, "posts",
          "posts", .byHint⟩ := by
  have hapart : Schema.magazine.NamesKeysApart := by decide
  have hauthor : Schema.magazine.Declares "posts"
      ⟨"editor", ["author"], "users", ["id"], false⟩ := by decide
  have hreply : Schema.magazine.Declares "posts"
      ⟨"posts_reply_to_fkey", ["reply_to"], "posts", ["id"], false⟩ := by decide
  refine ⟨rfl, hapart, ?_, ?_, ?_⟩
  · exact (constraint_hint_selects hapart hauthor (by decide) rfl).1 (.inl rfl)
  · exact (constraint_hint_selects hapart hauthor (by decide) rfl).2 (.inr (by decide))
  · exact (constraint_hint_selects hapart hreply (by decide) rfl).1 (.inr (by decide))

end GatewayQuery
