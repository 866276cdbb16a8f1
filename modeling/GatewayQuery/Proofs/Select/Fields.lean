/-
The fields of an expression, at every depth.

What is asked of an expression is often asked of each of its fields: that it has no hint, or
that it does not bear a certain name.  And an expression that was rewritten is often the same
tree with other fields at its nodes.  Both are said here for whole trees, so that an induction
over the nodes finds what it needs at each field.
-/
import GatewayQuery.Select.Node

namespace GatewayQuery.Select

mutual

/-- Every field of a node has the property, the fields below it included. -/
def EveryField (P : Field → Prop) : Node → Prop
  | .star => True
  | .field field children => P field ∧ EveryFieldIn P children
  | .spread target children => P target ∧ EveryFieldIn P children

/-- Every field of some nodes has the property. -/
def EveryFieldIn (P : Field → Prop) : List Node → Prop
  | [] => True
  | node :: rest => EveryField P node ∧ EveryFieldIn P rest

end

/-- No field of the nodes is hinted. -/
abbrev Unhinted (nodes : List Node) : Prop := EveryFieldIn (fun field => field.hint = none) nodes

mutual

def decideEveryField {P : Field → Prop} [DecidablePred P] :
    (node : Node) → Decidable (EveryField P node)
  | .star => .isTrue trivial
  | .field field children =>
    @instDecidableAnd (P field) _ inferInstance (decideEveryFieldIn children)
  | .spread target children =>
    @instDecidableAnd (P target) _ inferInstance (decideEveryFieldIn children)

def decideEveryFieldIn {P : Field → Prop} [DecidablePred P] :
    (nodes : List Node) → Decidable (EveryFieldIn P nodes)
  | [] => .isTrue trivial
  | node :: rest => @instDecidableAnd _ _ (decideEveryField node) (decideEveryFieldIn rest)

end

instance {P : Field → Prop} [DecidablePred P] (nodes : List Node) :
    Decidable (EveryFieldIn P nodes) := decideEveryFieldIn nodes

mutual

/-- Nodes of the same form whose fields are related one by one. -/
def Paired (R : Field → Field → Prop) : Node → Node → Prop
  | .star, .star => True
  | .field field children, .field twin twins => R field twin ∧ AllPaired R children twins
  | .spread target children, .spread twin twins => R target twin ∧ AllPaired R children twins
  | _, _ => False

/-- Lists of nodes of the same form whose fields are related one by one. -/
def AllPaired (R : Field → Field → Prop) : List Node → List Node → Prop
  | [], [] => True
  | node :: rest, twin :: twins => Paired R node twin ∧ AllPaired R rest twins
  | _, _ => False

end

variable {P : Field → Prop} {R : Field → Field → Prop}

/-! ### What a node is paired with -/

theorem paired_star {other : Node} (h : Paired R .star other) : other = .star := by
  cases other with
  | star => rfl
  | field twin twins => exact h.elim
  | spread twin twins => exact h.elim

theorem paired_field {field : Field} {children : List Node} {other : Node}
    (h : Paired R (.field field children) other) :
    ∃ twin twins, other = .field twin twins ∧ R field twin ∧ AllPaired R children twins := by
  cases other with
  | star => exact h.elim
  | field twin twins => exact ⟨twin, twins, rfl, h⟩
  | spread twin twins => exact h.elim

theorem paired_spread {target : Field} {children : List Node} {other : Node}
    (h : Paired R (.spread target children) other) :
    ∃ twin twins, other = .spread twin twins ∧ R target twin ∧ AllPaired R children twins := by
  cases other with
  | star => exact h.elim
  | field twin twins => exact h.elim
  | spread twin twins => exact ⟨twin, twins, rfl, h⟩

theorem allPaired_nil {others : List Node} (h : AllPaired R [] others) : others = [] := by
  cases others with
  | nil => rfl
  | cons twin twins => exact h.elim

theorem allPaired_cons {node : Node} {rest others : List Node}
    (h : AllPaired R (node :: rest) others) :
    ∃ twin twins, others = twin :: twins ∧ Paired R node twin ∧ AllPaired R rest twins := by
  cases others with
  | nil => exact h.elim
  | cons twin twins => exact ⟨twin, twins, rfl, h⟩

theorem AllPaired.isEmpty {nodes others : List Node} (h : AllPaired R nodes others) :
    others.isEmpty = nodes.isEmpty := by
  cases nodes with
  | nil => rw [allPaired_nil h]
  | cons node rest =>
    obtain ⟨twin, twins, rfl, -⟩ := allPaired_cons h
    rfl

mutual

theorem EveryField.paired (hfield : ∀ field, P field → R field field) :
    ∀ {node : Node}, EveryField P node → Paired R node node
  | .star, _ => trivial
  | .field field _, h => ⟨hfield field h.1, EveryFieldIn.paired hfield h.2⟩
  | .spread target _, h => ⟨hfield target h.1, EveryFieldIn.paired hfield h.2⟩

/-- An expression is paired with itself if its fields are related to themselves. -/
theorem EveryFieldIn.paired (hfield : ∀ field, P field → R field field) :
    ∀ {nodes : List Node}, EveryFieldIn P nodes → AllPaired R nodes nodes
  | [], _ => trivial
  | _ :: _, h => ⟨h.1.paired hfield, EveryFieldIn.paired hfield h.2⟩

end

mutual

theorem EveryField.and {Q : Field → Prop} :
    ∀ {node : Node}, EveryField P node → EveryField Q node →
      EveryField (fun field => P field ∧ Q field) node
  | .star, _, _ => trivial
  | .field _ _, h, hother => ⟨⟨h.1, hother.1⟩, EveryFieldIn.and h.2 hother.2⟩
  | .spread _ _, h, hother => ⟨⟨h.1, hother.1⟩, EveryFieldIn.and h.2 hother.2⟩

theorem EveryFieldIn.and {Q : Field → Prop} :
    ∀ {nodes : List Node}, EveryFieldIn P nodes → EveryFieldIn Q nodes →
      EveryFieldIn (fun field => P field ∧ Q field) nodes
  | [], _, _ => trivial
  | _ :: _, h, hother => ⟨h.1.and hother.1, EveryFieldIn.and h.2 hother.2⟩

end

end GatewayQuery.Select
