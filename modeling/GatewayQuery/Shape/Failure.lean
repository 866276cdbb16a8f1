/-
What can go wrong while an expression is matched with a schema.  A failure spoils one key of a
shape and nothing else, so it is kept there as a diagnosis: its kind, a sentence, and the names
that the sentence is about, ready to be shown or sent.
-/

namespace GatewayQuery

/-- A foreign key that an ambiguous embedding could mean. -/
structure Candidate where
  foreignKey : String
  owner : String
  columns : List String
  referenced : String
  deriving DecidableEq, Repr, Inhabited

/-- A failure, by its cause. -/
inductive Failure where
  /-- Several keys match an embedding. -/
  | ambiguous (relation target : String) (candidates : List Candidate)
  /-- No key connects the two. -/
  | relationshipNotFound (relation target : String)
  | unknownColumn (relation column : String)
  | unknownRelation (relation : String)
  /-- A spread of an embedding with many rows. -/
  | illegalSpread (relation target : String)
  /-- A key is embedded a second time under the same name. -/
  | duplicateEmbedding (relation target : String)
  deriving DecidableEq, Repr

/-- The kind of a failure. -/
inductive Diagnosis.Kind where
  | ambiguousRelationship
  | relationshipNotFound
  | unknownColumn
  | unknownRelation
  | illegalSpread
  | duplicateEmbedding
  deriving DecidableEq, Repr

/-- The word for a kind in JSON. -/
def Diagnosis.Kind.name : Diagnosis.Kind → String
  | .ambiguousRelationship => "ambiguous_relationship"
  | .relationshipNotFound => "relationship_not_found"
  | .unknownColumn => "unknown_column"
  | .unknownRelation => "unknown_relation"
  | .illegalSpread => "illegal_spread"
  | .duplicateEmbedding => "duplicate_embedding"

/-- The names that a diagnosis is about. -/
structure Diagnosis.Context where
  /-- The relation against which the node was matched. -/
  relation : Option String
  /-- The relation or column that the node names. -/
  target : Option String
  /-- The keys to choose from, when there are too many. -/
  candidates : List Candidate
  /-- How the expression could be mended. -/
  hint : Option String
  deriving DecidableEq, Repr

/-- What is reported at a key that could not be resolved. -/
structure Diagnosis where
  kind : Diagnosis.Kind
  message : String
  context : Diagnosis.Context
  deriving DecidableEq, Repr

namespace Failure

def kind : Failure → Diagnosis.Kind
  | .ambiguous .. => .ambiguousRelationship
  | .relationshipNotFound .. => .relationshipNotFound
  | .unknownColumn .. => .unknownColumn
  | .unknownRelation _ => .unknownRelation
  | .illegalSpread .. => .illegalSpread
  | .duplicateEmbedding .. => .duplicateEmbedding

def message : Failure → String
  | .ambiguous relation target _ =>
    "Could not embed because more than one relationship was found for '" ++ relation ++ "' and '" ++
      target ++ "'"
  | .relationshipNotFound relation target =>
    "Could not find a relationship between '" ++ relation ++ "' and '" ++ target ++ "'"
  | .unknownColumn relation column =>
    "column '" ++ column ++ "' does not exist on '" ++ relation ++ "'"
  | .unknownRelation relation => "relation '" ++ relation ++ "' does not exist"
  | .illegalSpread relation target =>
    "'" ++ target ++ "' cannot be spread into '" ++ relation ++
      "': only to-one relationships can be spread"
  | .duplicateEmbedding _ target => "table '" ++ target ++ "' specified more than once"

/-- The spellings of the target that single out each candidate. -/
def options (target : String) (candidates : List Candidate) : String :=
  ", ".intercalate
    (candidates.map fun candidate => "'" ++ target ++ "!" ++ candidate.foreignKey ++ "'")

def context : Failure → Diagnosis.Context
  | .ambiguous relation target candidates =>
    ⟨some relation, some target, candidates,
      some ("Try changing '" ++ target ++ "' to one of the following: " ++
        options target candidates ++ ", or hint a column with '" ++ target ++ "!<columnname>'")⟩
  | .relationshipNotFound relation target => ⟨some relation, some target, [], none⟩
  | .unknownColumn relation column => ⟨some relation, some column, [], none⟩
  | .unknownRelation relation => ⟨none, some relation, [], none⟩
  | .illegalSpread relation target => ⟨some relation, some target, [], none⟩
  | .duplicateEmbedding relation target =>
    ⟨some relation, some target, [],
      some ("Alias one of the embeddings, e.g. 'other:" ++ target ++
        "(...)', or hint the relationship")⟩

/-- What is reported of a failure. -/
def diagnosis (failure : Failure) : Diagnosis := ⟨failure.kind, failure.message, failure.context⟩

end Failure

end GatewayQuery
