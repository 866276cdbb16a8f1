/-
Where the headers of a request come from.

A draft adds at most four headers to those of its client, and it writes over one that the client
has.  What it adds is told by the operation and its options, by whether a write was asked for its
rows, and by the last call that said how to read the answer; filters, orders, limits and ranges have
no part in it.

Besides parameters a draft holds what is here called its envelope, and the headers are made of
nothing else.  One equation says what a call does to an envelope.  From it follow both parts of the
result: after all calls the envelope is what the operation and the calls asked for, and calls that
are about rows may be left out.
-/
import GatewayQuery.Proofs.Request.Rows
import GatewayQuery.Proofs.Select.Cleaning
import Mathlib.Data.List.Induction

namespace GatewayQuery

variable {access : Access}

/-! ### What is asked for -/

namespace Operation

def method : Operation access → Method
  | .select _ head _ => if head then .head else .get
  | .insert .. | .upsert .. => .post
  | .update .. => .patch
  | .delete .. => .delete

theorem isRead_method (operation : Operation access) :
    operation.method.isRead = decide (access = .read) := by
  cases operation with
  | select columns head count => cases head <;> rfl
  | _ => rfl

/-- The values that an operation sends. -/
def body? : Operation access → Option Json
  | .insert values .. | .upsert values .. | .update values _ => some values
  | .select .. | .delete .. => none

def count? : Operation access → Option Count
  | .select _ _ count | .insert _ count _ | .upsert _ _ _ count _ | .update _ count
  | .delete count => count

/-- How an upsert resolves conflicts. -/
def resolution? : Operation access → Option String
  | .upsert _ _ ignoreDuplicates _ _ =>
    some (if ignoreDuplicates then "resolution=ignore-duplicates"
      else "resolution=merge-duplicates")
  | _ => none

/-- Whether missing keys are to take the default of their column. -/
def missingDefault : Operation access → Bool
  | .insert _ _ defaultToNull | .upsert _ _ _ _ defaultToNull => !defaultToNull
  | _ => false

/-- What the options of an operation prefer. -/
def preferences (operation : Operation access) : List String :=
  operation.resolution?.toList ++ (operation.count?.map Count.preference).toList ++
    if operation.missingDefault then ["missing=default"] else []

end Operation

namespace Call

/-- How the answer is to be read, if the call says so. -/
def response? : Call access → Option Response
  | .single => some .single
  | .maybeSingle => some .maybeSingle
  | _ => none

/-- Whether a call is about which rows there are and in what order. -/
def isAboutRows : Call access → Bool
  | .filter _ | .order .. | .limit .. | .range .. => true
  | .single | .maybeSingle | .select _ => false

end Call

namespace Headers

/-- What a write returns; a read is not asked. -/
def returned (calls : List (Call access)) : Option Returning :=
  match access with
  | .read => none
  | .write => some (if calls.any (·.columns?.isSome) then .representation else .minimal)

/-- All that a request prefers, in order. -/
def preferred (operation : Operation access) (calls : List (Call access)) : List String :=
  ((returned calls).map Returning.preference).toList ++ operation.preferences

/-- How the answer is to be read: as the last call that spoke of it said. -/
def response (calls : List (Call access)) : Response :=
  (calls.filterMap Call.response?).getLast?.getD .rows

/-- The headers that a request adds to those of its client. -/
def added (client : Client) (operation : Operation access) (calls : List (Call access)) :
    String → Option String
  | "Accept-Profile" => if access = .read then client.schema else none
  | "Content-Profile" => if access = .write then client.schema else none
  | "Content-Type" => operation.body?.map fun _ => "application/json"
  | "Prefer" =>
    if preferred operation calls = [] then none
    else some (",".intercalate (preferred operation calls))
  | "Accept" =>
    if response calls = .single ∨ response calls = .maybeSingle ∧ access = .write then
      some "application/vnd.pgrst.object+json"
    else none
  | _ => none

end Headers

/-- The request is what the operation and the calls ask for, in everything but its URL.  A header
that is not added is that of the client, if it has one with the name. -/
structure Request.Answers (request : Request) (client : Client) (operation : Operation access)
    (calls : List (Call access)) : Prop where
  method : request.method = operation.method
  reads : request.method.isRead = true ↔ access = .read
  body : request.body = operation.body?
  bodiless : access = .read → request.body = none
  response : request.response = Headers.response calls
  header : ∀ name, request.header? name =
    (Headers.added client operation calls name).or (Keyed.get? name client.headers)
  distinct : (Keyed.keys client.headers).Nodup → (Keyed.keys request.headers).Nodup

/-! ### Everything but the URL -/

/-- What a draft holds besides its parameters and what is wrong with it. -/
structure Envelope where
  method : Method
  client : Client
  returning : Option Returning
  preferences : List String
  body : Option Json
  response : Response

namespace Envelope

/-- What an operation and some calls ask for. -/
def asked (client : Client) (operation : Operation access) (calls : List (Call access)) :
    Envelope where
  method := operation.method
  client := client
  returning := Headers.returned calls
  preferences := operation.preferences
  body := operation.body?
  response := Headers.response calls

/-- The envelope after a call. -/
def after (envelope : Envelope) (call : Call access) : Envelope :=
  { envelope with
    returning := if call.columns?.isSome then some .representation else envelope.returning
    response := call.response?.getD envelope.response }

theorem after_asked (client : Client) (operation : Operation access) (calls : List (Call access))
    (call : Call access) :
    (asked client operation calls).after call = asked client operation (calls ++ [call]) := by
  have hreturned : (if call.columns?.isSome then some .representation
      else Headers.returned calls) = Headers.returned (calls ++ [call]) := by
    cases call with
    | select columns => simp [Headers.returned, Call.columns?]
    | _ => cases access <;> simp [Headers.returned, Call.columns?]
  have hresponse : call.response?.getD (Headers.response calls) =
      Headers.response (calls ++ [call]) := by
    rw [Headers.response, Headers.response, List.filterMap_append, List.getLast?_append]
    cases hcall : call.response? <;> simp [hcall]
  rw [after, asked, hreturned, hresponse]
  rfl

/-- From the start on, the calls make of an envelope what they ask for. -/
theorem foldl_after_asked (client : Client) (operation : Operation access)
    (calls : List (Call access)) :
    calls.foldl after (asked client operation []) = asked client operation calls := by
  induction calls using List.reverseRecOn with
  | nil => rfl
  | append_singleton calls call ih =>
    rw [List.foldl_append, ih, List.foldl_cons, List.foldl_nil, after_asked]

theorem after_of_isAboutRows (envelope : Envelope) {call : Call access}
    (h : call.isAboutRows = true) : envelope.after call = envelope := by
  cases call with
  | single => cases h
  | maybeSingle => cases h
  | select columns => cases h
  | _ => rfl

/-- Calls about rows may be left out. -/
theorem foldl_after (envelope : Envelope) (calls : List (Call access)) :
    calls.foldl after envelope = (calls.filter (!·.isAboutRows)).foldl after envelope := by
  induction calls generalizing envelope with
  | nil => rfl
  | cons call calls ih =>
    rw [List.foldl_cons, ih]
    cases h : call.isAboutRows with
    | true => rw [after_of_isAboutRows envelope h, List.filter_cons_of_neg (by simp [h])]
    | false => rw [List.filter_cons_of_pos (by simp [h]), List.foldl_cons]

end Envelope

namespace Draft

def envelope (draft : Draft) : Envelope :=
  ⟨draft.method, draft.client, draft.returning, draft.preferences, draft.body, draft.response⟩

/-- Rows are a matter of the body and of parameters. -/
theorem exists_setRows_eq (draft : Draft) {values : Json} (h : values.isRows = true) :
    ∃ params, draft.setRows values = { draft with params := params, body := some values } := by
  cases values with
  | object members => exact ⟨_, rfl⟩
  | array rows =>
    rw [setRows, columnsOf?_of_all h]
    exact ⟨_, rfl⟩
  | _ => cases h

theorem preferences_setRows (draft : Draft) (values : Json) :
    (draft.setRows values).preferences = draft.preferences := by
  obtain ⟨params, body, fault, hset⟩ := setRows_eq draft values
  rw [hset]

theorem preferences_start (client : Client) (relation : String) (operation : Operation access) :
    (start client relation operation).preferences = operation.preferences := by
  cases operation with
  | insert values count defaultToNull =>
    rw [start, preferences_setRows]
    cases defaultToNull <;> rfl
  | upsert values onConflict ignoreDuplicates count defaultToNull =>
    rw [start, preferences_setRows]
    cases ignoreDuplicates <;> cases defaultToNull <;> rfl
  | _ => exact (List.append_nil _).symm

theorem envelope_start (client : Client) (relation : String) {operation : Operation access}
    (h : operation.offence = none) :
    (start client relation operation).envelope = .asked client operation [] := by
  have hpreferences := preferences_start client relation operation
  have hrows : ∀ values, operation.inserted? = some values → values.isRows = true := by
    intro values hvalues
    rw [Operation.offence, hvalues, Option.all_some] at h
    by_contra hnot
    rw [if_neg hnot] at h
    cases h
  rw [Envelope.asked, ← hpreferences]
  cases operation with
  | insert values count defaultToNull =>
    rw [start]
    obtain ⟨params, hset⟩ := exists_setRows_eq _ (hrows values rfl)
    rw [hset]
    rfl
  | upsert values onConflict ignoreDuplicates count defaultToNull =>
    rw [start]
    obtain ⟨params, hset⟩ := exists_setRows_eq _ (hrows values rfl)
    rw [hset]
    rfl
  | _ => rfl

theorem envelope_apply (draft : Draft) (call : Call access) :
    (draft.apply call).envelope = draft.envelope.after call := by
  cases call with
  | range first last table =>
    rw [apply]
    split <;> rfl
  | _ => rfl

theorem envelope_applyAll (draft : Draft) (calls : List (Call access)) :
    (draft.applyAll calls).envelope = calls.foldl Envelope.after draft.envelope := by
  induction calls generalizing draft with
  | nil => rfl
  | cons call calls ih =>
    rw [List.foldl_cons, ← envelope_apply]
    exact ih (draft.apply call)

theorem envelope_run {client : Client} {relation : String} {operation : Operation access}
    {calls : List (Call access)}
    (h : ((start client relation operation).applyAll calls).fault = none) :
    ((start client relation operation).applyAll calls).envelope =
      .asked client operation calls := by
  rw [fault_eq_head?, List.head?_eq_none_iff, offences, List.append_eq_nil_iff,
    Option.toList_eq_nil_iff] at h
  rw [envelope_applyAll, envelope_start client relation h.1, Envelope.foldl_after_asked]

/-! ### Headers -/

/-- Parameters have no part in the headers. -/
theorem headers_eq_of_envelope {draft other : Draft} (h : draft.envelope = other.envelope) :
    draft.headers = other.headers := by
  cases draft
  cases other
  cases h
  rfl

theorem get?_addHeader (name other : String) (value : Option String) (headers : Headers) :
    Keyed.get? other (addHeader name value headers) =
      if other = name then value.or (Keyed.get? other headers) else Keyed.get? other headers := by
  cases value with
  | none => simp [addHeader]
  | some value =>
    rw [addHeader, Keyed.get?_insert]
    simp only [eq_comm, Option.some_or]

theorem nodup_addHeader (name : String) (value : Option String) {headers : Headers}
    (h : (Keyed.keys headers).Nodup) : (Keyed.keys (addHeader name value headers)).Nodup := by
  cases value with
  | none => exact h
  | some value => exact Keyed.nodup_keys_alter h name _

theorem nodup_headers {draft : Draft} (h : (Keyed.keys draft.client.headers).Nodup) :
    (Keyed.keys draft.headers).Nodup :=
  nodup_addHeader _ _ (nodup_addHeader _ _ (nodup_addHeader _ _ (nodup_addHeader _ _ h)))

theorem get?_headers {draft : Draft} {client : Client} {operation : Operation access}
    {calls : List (Call access)} (h : draft.envelope = .asked client operation calls)
    (name : String) :
    Keyed.get? name draft.headers =
      (Headers.added client operation calls name).or (Keyed.get? name client.headers) := by
  obtain ⟨hmethod, hclient, hreturning, hpreferences, hbody, hresponse⟩ := Envelope.mk.inj h
  have hpreferred : draft.allPreferences = Headers.preferred operation calls := by
    rw [allPreferences, hreturning, hpreferences]
    rfl
  have hobject : draft.wantsObject = decide (Headers.response calls = .single ∨
      Headers.response calls = .maybeSingle ∧ access = .write) := by
    rw [wantsObject, hresponse, hmethod, Operation.isRead_method]
    cases Headers.response calls <;> cases access <;> rfl
  -- one case for each name that may be added, and one for all others
  unfold Headers.added
  split <;> simp only [headers, get?_addHeader, hpreferred, hobject, hmethod, hclient, hbody,
    Operation.isRead_method]
  · cases access <;> simp
  · cases access <;> simp
  · cases access <;> simp
  · cases access <;> simp
  · cases access <;> simp
  · next hacceptProfile hcontentProfile htype hprefer haccept =>
    rw [if_neg haccept, if_neg hprefer, if_neg htype, Option.none_or]
    cases access with
    | read => exact if_neg hacceptProfile
    | write => exact if_neg hcontentProfile

end Draft

/-! ### Requests -/

section Requests

variable {client : Client} {relation : String} {operation : Operation access}
  {calls : List (Call access)} {request : Request}

theorem Draft.envelope_of_build
    (h : ((start client relation operation).applyAll calls).build = .ok request) :
    ((start client relation operation).applyAll calls).envelope = .asked client operation calls ∧
      request.headers = ((start client relation operation).applyAll calls).headers ∧
      request.method = operation.method ∧ request.body = operation.body? ∧
      request.response = Headers.response calls := by
  obtain ⟨hfault, -, rfl⟩ := build_eq_ok_iff.mp h
  have henvelope := envelope_run hfault
  obtain ⟨hmethod, -, -, -, hbody, hresponse⟩ := Envelope.mk.inj henvelope
  exact ⟨henvelope, rfl, hmethod, hbody, hresponse⟩

/-- What calls ask for is not changed by calls about rows. -/
theorem Envelope.asked_eq_of_filter {others : List (Call access)}
    (h : others.filter (!·.isAboutRows) = calls.filter (!·.isAboutRows)) :
    asked client operation others = asked client operation calls := by
  rw [← foldl_after_asked, foldl_after, h, ← foldl_after, foldl_after_asked]

/-- **Where the headers of a request come from.**  They are those of its client but for the ones
that its operation, the selects and the last word on how to read the answer add; a read has no body.
Another request of the same operation whose calls differ in filters, orders, limits and ranges only
has the same method, headers and body, and is read in the same way. -/
theorem Draft.headers_of_build
    (h : ((start client relation operation).applyAll calls).build = .ok request) :
    request.Answers client operation calls ∧
      ∀ others other, others.filter (!·.isAboutRows) = calls.filter (!·.isAboutRows) →
        ((start client relation operation).applyAll others).build = .ok other →
        other.method = request.method ∧ other.headers = request.headers ∧
          other.body = request.body ∧ other.response = request.response := by
  obtain ⟨henvelope, hheaders, hmethod, hbody, hresponse⟩ := envelope_of_build h
  refine ⟨⟨hmethod, ?_, hbody, ?_, hresponse, ?_, ?_⟩, ?_⟩
  · rw [hmethod, Operation.isRead_method, decide_eq_true_iff]
  · rintro rfl
    rw [hbody]
    cases operation
    rfl
  · intro name
    rw [Request.header?, hheaders, get?_headers henvelope]
  · intro hdistinct
    rw [hheaders]
    refine nodup_headers ?_
    rwa [client_applyAll, client_start]
  · intro others other hothers hother
    obtain ⟨henvelope', hheaders', hmethod', hbody', hresponse'⟩ := envelope_of_build hother
    have hasked : Envelope.asked client operation others = Envelope.asked client operation calls :=
      Envelope.asked_eq_of_filter hothers
    obtain ⟨-, -, -, -, -, hsame⟩ := Envelope.mk.inj hasked
    refine ⟨hmethod'.trans hmethod.symm, ?_, hbody'.trans hbody.symm,
      hresponse'.trans (hsame.trans hresponse.symm)⟩
    rw [hheaders', hheaders]
    exact headers_eq_of_envelope (henvelope'.trans (hasked.trans henvelope.symm))

end Requests

/-- A client for a schema, with a preference of its own and a header that is spelled like none that
requests add. -/
def Client.bookings : Client :=
  { Client.localhost with
    schema := some "private"
    headers := [("Prefer", "tx=rollback"), ("accept", "text/csv")] }

/-- Rows are asked for between two words on how to read the answer. -/
def returningCalls : List (Call .write) :=
  [.single, .filter (.compare .equal "id" (.whole 1)), .select "*", .limit 1 none, .maybeSingle]

/-- What the upsert prefers takes the place of the client's preference; what the calls say of rows
could be left out. -/
theorem Draft.headers_of_build_upsert :
    ∃ request, ((start .bookings "seats" (.upsert (.array overlappingRows) none true (some .exact)
          false)).applyAll returningCalls).build = .ok request ∧
      request.header? "Prefer" = some ("return=representation,resolution=ignore-duplicates," ++
        "count=exact,missing=default") ∧
      request.header? "Content-Profile" = some "private" ∧
      request.header? "Accept" = some "application/vnd.pgrst.object+json" ∧
      request.header? "accept" = some "text/csv" ∧
      ∀ other, ((start .bookings "seats" (.upsert (.array overlappingRows) none true (some .exact)
          false)).applyAll ([.single, .select "*", .maybeSingle] : List (Call .write))).build =
            .ok other → other.headers = request.headers := by
  have hparse : Select.parse (Select.clean "*") = .ok [.star] :=
    Select.parse_of_reads (.cons rfl rfl (.nil rfl)) (.last .star)
  obtain ⟨request, hbuild⟩ : ∃ request, ((start .bookings "seats" (.upsert
      (.array overlappingRows) none true (some .exact) false)).applyAll returningCalls).build =
        .ok request := by
    refine ⟨_, build_eq_ok_iff.mpr ⟨rfl, ?_, rfl⟩⟩
    rintro _ ⟨rfl⟩
    exact ⟨_, hparse⟩
  obtain ⟨hanswers, hothers⟩ := headers_of_build hbuild
  refine ⟨request, hbuild, ?_, ?_, ?_, ?_, ?_⟩
  · exact (hanswers.header "Prefer").trans rfl
  · exact (hanswers.header "Content-Profile").trans rfl
  · exact (hanswers.header "Accept").trans rfl
  · exact (hanswers.header "accept").trans rfl
  · intro other hother
    exact (hothers [.single, .select "*", .maybeSingle] other rfl hother).2.1

end GatewayQuery
