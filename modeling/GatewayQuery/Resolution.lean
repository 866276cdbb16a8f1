/-
Which foreign key an embedding travels along.  The field names its target, the hint, if there is
one, names the key.

Without a hint the keys are looked for in three places, and the first place that has any decides:
keys that the target declares towards the current relation, keys that the current relation declares
towards the target, and keys of the current relation whose name or only column is the name of the
field.  Two keys in the deciding place are too many.

With a hint the keys that connect the two relations are searched, incoming ones first, by the name
of the constraint, by the relation pointed at, and by the only column.  Each search ends with the
first key that it finds, and the first of these that can be followed is taken.
-/
import GatewayQuery.Schema.Index
import GatewayQuery.Select.Node
import GatewayQuery.Shape.Failure

namespace GatewayQuery

/-- Which end of a key an embedding starts from. -/
inductive Direction where
  /-- From the owner to the relation pointed at. -/
  | forward
  /-- From the relation pointed at to the owner. -/
  | reverse
  deriving DecidableEq, Repr

/-- What singled out a key. -/
inductive MatchKind where
  | byHint
  | byName
  deriving DecidableEq, Repr

/-- How many rows an embedding has for one row. -/
inductive Cardinality where
  /-- One at most. -/
  | one
  | many
  deriving DecidableEq, Repr

/-- The key chosen for an embedding and the way it is travelled. -/
structure Resolution where
  key : ForeignKey
  direction : Direction
  /-- The relation that the embedding appears under. -/
  source : String
  /-- The embedded relation. -/
  target : String
  matchedBy : MatchKind
  deriving DecidableEq, Repr

namespace Resolution

open Schema (Index Edge)

/-- How many rows there are, and whether there may be none where one is expected.  A key travelled
forward leads to one row, which is missing where an owning column is null, or where nothing is known
of the column; travelled backward it leads to many, or to one if it is unique.  An inner join drops
the rows without a partner, and a list is empty rather than missing. -/
def cardinality (resolution : Resolution) (index : Index) (innerJoin : Bool) :
    Cardinality × Bool :=
  match resolution.direction with
  | .forward =>
    let owner := index.relation? resolution.source
    let nullable := resolution.key.columns.any fun name =>
      ((owner.bind (·.column? name)).map (·.nullable)).getD true
    (.one, nullable && !innerJoin)
  | .reverse => if resolution.key.oneToOne then (.one, !innerJoin) else (.many, false)

/-- Whether two embeddings travel the same key the same way. -/
def sameAs (a b : Resolution) : Bool :=
  a.target == b.target && a.direction == b.direction && a.key.name == b.key.name &&
    a.key.columns == b.key.columns

/-- A key as one to choose from. -/
def candidate (edge : Edge) : Candidate :=
  ⟨edge.key.name, edge.owner, edge.key.columns, edge.key.referenced⟩

/-- The only key of a place, nothing if it is empty, and a failure if there are several. -/
def single (current target : String) : List Edge → Except Failure (Option Edge)
  | [] => .ok none
  | [edge] => .ok (some edge)
  | edges => .error (.ambiguous current target (edges.map candidate))

/-! ### By name -/

/-- The keys that the target declares towards the current relation. -/
def towards (index : Index) (current target : String) : List Edge :=
  (index.incoming current).filter (·.owner == target)

/-- The keys that the current relation declares towards the target. -/
def awayFrom (index : Index) (current target : String) : List Edge :=
  (index.outgoing current).filter (·.key.referenced == target)

/-- The keys of the current relation whose only column or whose name is the name of the field. -/
def named (index : Index) (current target : String) : List Edge :=
  (index.outgoing current).filter fun edge =>
    edge.key.isColumn target || edge.key.name == target

/-- The key found between two relations, if there is one between them. -/
def between (index : Index) (current target : String) : Except Failure (Option Resolution) :=
  match index.relation? target with
  | none => .ok none
  | some _ =>
    match single current target (towards index current target) with
    | .error failure => .error failure
    | .ok (some edge) => .ok (some ⟨edge.key, .reverse, current, target, .byName⟩)
    | .ok none =>
      match single current target (awayFrom index current target) with
      | .error failure => .error failure
      | .ok (some edge) => .ok (some ⟨edge.key, .forward, current, target, .byName⟩)
      | .ok none => .ok none

/-- The key of the current relation that bears the name, if its other end is a relation. -/
def throughKey (index : Index) (current target : String) :
    Except Failure (Option Resolution) :=
  match single current target (named index current target) with
  | .error failure => .error failure
  | .ok none => .ok none
  | .ok (some edge) =>
    match index.relation? edge.key.referenced with
    | none => .ok none
    | some other =>
      let direction := if other.name = current then Direction.reverse else .forward
      .ok (some ⟨edge.key, direction, current, other.name, .byName⟩)

/-- The key that the name of a field means. -/
def byName (index : Index) (current target : String) : Except Failure (Option Resolution) :=
  match index.relation? current with
  | none => .ok none
  | some _ =>
    match between index current target with
    | .error failure => .error failure
    | .ok (some resolution) => .ok (some resolution)
    | .ok none => throughKey index current target

/-! ### By hint -/

/-- The keys between the current relation and the target, incoming ones first; all keys of the
current relation if the target is not a relation. -/
def connecting (index : Index) (current target : String) : List (Edge × Direction) :=
  let anyTarget := (index.relation? target).isNone
  ((index.incoming current).filter fun edge => anyTarget || edge.owner == target).map
      (·, .reverse) ++
    ((index.outgoing current).filter fun edge => anyTarget || edge.key.referenced == target).map
      (·, .forward)

/-- The three ways to name a key, the strongest first. -/
def hintRules (hint : String) : List (ForeignKey → Bool) :=
  [fun key => key.name == hint, fun key => key.referenced == hint, fun key => key.isColumn hint]

/-- Follows a key from the current relation, if both its ends are relations.  A key from a relation
to itself is always travelled backward. -/
def follow (index : Index) (current : String) (edge : Edge) (direction : Direction) :
    Option Resolution :=
  let direction := if edge.owner = edge.key.referenced then Direction.reverse else direction
  let other :=
    match direction with
    | .reverse => edge.owner
    | .forward => edge.key.referenced
  match index.relation? current, index.relation? other with
  | some source, some target => some ⟨edge.key, direction, source.name, target.name, .byHint⟩
  | _, _ => none

/-- The key that a hint means. -/
def byHint (index : Index) (current target hint : String) : Option Resolution :=
  (hintRules hint).findSome? fun rule =>
    ((connecting index current target).find? fun (edge, _) => rule edge.key).bind
      fun (edge, direction) => follow index current edge direction

end Resolution

/-- The key that an embedding under the current relation travels along. -/
def resolve (index : Schema.Index) (current : String) (field : Select.Field) :
    Except Failure Resolution :=
  let found : Except Failure (Option Resolution) :=
    match field.hint with
    | some hint => .ok (Resolution.byHint index current field.name hint)
    | none => Resolution.byName index current field.name
  match found with
  | .error failure => .error failure
  | .ok none => .error (.relationshipNotFound current field.name)
  | .ok (some resolution) => .ok resolution

end GatewayQuery
