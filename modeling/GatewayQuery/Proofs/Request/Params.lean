/-
What a call does to the parameters of a draft, and what becomes of them in the URL.

Every call is one of two things for the parameters: a filter adds some at the end,
anything else writes settings, each into the first parameter with its name.  This is
said once for all calls, and the parameters of a request that was built are those of
its draft, behind what the query of the base held before.
-/
import GatewayQuery.Proofs.Keyed
import GatewayQuery.Proofs.Request.Build
import GatewayQuery.Proofs.Url.Form

namespace GatewayQuery

/-! ### Calls -/

namespace Call

variable {access : Access}

/-- The parameters that a call adds. -/
def added : Call access → List (String × String)
  | .filter condition => condition.parameters
  | _ => []

/-- An order with one more term. -/
def extendOrder (term : String) : Option String → String
  | none => term
  | some terms => terms ++ "," ++ term

/-- The settings that a call writes, each with its value as a function of the one before. -/
def writes : Call access → List (String × (Option String → String))
  | .order column ascending nullsFirst table =>
    [(onTable "order" table, extendOrder (Draft.orderTerm column ascending nullsFirst))]
  | .limit count table => [(onTable "limit" table, fun _ => toString count)]
  | .range first last table =>
    if last < first then []
    else
      [(onTable "offset" table, fun _ => toString first),
        (onTable "limit" table, fun _ => toString (last - first + 1))]
  | .select columns => [("select", fun _ => Select.clean columns)]
  | _ => []

end Call

/-- Writes settings one after the other. -/
def writeAll {α : Type} (writes : List (String × (Option α → α))) (entries : List (String × α)) :
    List (String × α) :=
  writes.foldl (fun entries write => Keyed.alter write.1 write.2 entries) entries

namespace Draft

variable {access : Access}

/-- A call writes its settings and adds its parameters. -/
theorem params_apply (draft : Draft) (call : Call access) :
    (draft.apply call).params = writeAll call.writes draft.params ++ call.added := by
  cases call with
  | filter condition => rfl
  | order column ascending nullsFirst table =>
    simp only [apply, addOrder, Call.added, List.append_nil]
    rfl
  | limit count table => exact (List.append_nil _).symm
  | range first last table =>
    simp only [apply, Call.writes, Call.added, List.append_nil]
    split <;> rfl
  | single => exact (List.append_nil _).symm
  | maybeSingle => exact (List.append_nil _).symm
  | select columns => exact (List.append_nil _).symm

/-- Where a draft goes. -/
def address (draft : Draft) : Client × String := (draft.client, draft.relation)

theorem address_apply (draft : Draft) (call : Call access) :
    (draft.apply call).address = draft.address := by
  cases call with
  | range first last table =>
    simp only [apply]
    split <;> rfl
  | _ => rfl

theorem address_applyAll (draft : Draft) (calls : List (Call access)) :
    (draft.applyAll calls).address = draft.address := by
  induction calls generalizing draft with
  | nil => rfl
  | cons call calls ih => exact (ih (draft.apply call)).trans (address_apply draft call)

theorem address_setRows (draft : Draft) (values : Json) :
    (draft.setRows values).address = draft.address := by
  obtain ⟨params, body, fault, hset⟩ := setRows_eq draft values
  rw [hset]
  rfl

theorem address_start (client : Client) (relation : String) (operation : Operation access) :
    (start client relation operation).address = (client, relation) := by
  cases operation with
  | insert => exact address_setRows _ _
  | upsert => exact address_setRows _ _
  | _ => rfl

theorem client_applyAll (draft : Draft) (calls : List (Call access)) :
    (draft.applyAll calls).client = draft.client :=
  congrArg Prod.fst (address_applyAll draft calls)

theorem client_start (client : Client) (relation : String) (operation : Operation access) :
    (start client relation operation).client = client :=
  congrArg Prod.fst (address_start client relation operation)

end Draft

/-! ### Requests -/

theorem Url.pairs_push (url : Url) (text : String) : (url.push text).pairs = url.pairs := by
  unfold Url.push
  split <;> rfl

theorem Url.pairs_popIfEmpty (url : Url) : url.popIfEmpty.pairs = url.pairs := by
  unfold Url.popIfEmpty
  split <;> rfl

/-- **The parameters of a request are those of its draft, behind those of the base.** -/
theorem Draft.params_of_build {draft : Draft} {request : Request} (h : draft.build = .ok request) :
    request.params = draft.client.base.pairs ++ draft.params := by
  obtain ⟨-, -, rfl⟩ := build_eq_ok_iff.mp h
  rw [Request.params, Draft.url, Url.pairs_addPairs, Url.pairs_push, Url.pairs_popIfEmpty]

end GatewayQuery
