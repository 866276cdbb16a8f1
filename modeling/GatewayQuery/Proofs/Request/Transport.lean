/-
Parameters arrive as they were given.

A request holds no list of parameters, only a URL, and whoever receives it reads them
out of the query.  `Proofs/Url/Form.lean` shows that reading undoes writing for any
keys and values, and `Proofs/Request/Params.lean` that building changes nothing but
the path in front of the query.  What is left is where the query begins: with that of
the base, as its text was read.

A receiver that has only the text must also find the query in it, which ends at the
first number sign.  Reading a base leaves none in its query and nothing that is
written behind it is one, so the query reaches the receiver whole and the parameters
are read out of the text.  Where the path ends in the text is not looked for: it is
taken from the URL.
-/
import Mathlib.Control.Monad.Basic
import GatewayQuery.Proofs.Request.Params
import GatewayQuery.Proofs.Url.Reader

namespace GatewayQuery

namespace Url

/-! ### The end of a query -/

/-- The query and the fragment with their marks, as they stand behind the path in the text. -/
def marked (url : Url) : String := printMarked "?" url.query ++ printMarked "#" url.fragment

theorem print_marked (url : Url) : ∃ place, url.print = place ++ url.marked :=
  ⟨_, String.append_assoc⟩

/-- The query does not end before its text does. -/
def QueryWhole (url : Url) : Prop := ∀ query ∈ url.query, '#' ∉ query.toList

/-- What is written behind a query consists of keys and values, whose text is plain, and of the
marks that keep them apart. -/
theorem Form.append_written (query : List Char) (added : List (String × String)) :
    ∃ written, append query added = query ++ written ∧
      ∀ c ∈ written, IsPlain c ∨ c = '&' ∨ c = '=' := by
  induction added generalizing query with
  | nil => exact ⟨[], (List.append_nil query).symm, by simp⟩
  | cons pair added ih =>
    obtain ⟨separator, hseparator, hmark⟩ : ∃ separator : List Char,
        (if query.isEmpty then query else query ++ ['&']) = query ++ separator ∧
          ∀ c ∈ separator, c = '&' := by
      split
      · exact ⟨[], (List.append_nil query).symm, by simp⟩
      · exact ⟨['&'], rfl, by simp⟩
    have hpair : ∀ c ∈ encodePair pair, IsPlain c ∨ c = '=' := by
      intro c hc
      rcases List.mem_append.mp hc with hkey | hvalue
      · exact .inl (encode_isPlain hkey)
      · rcases List.mem_cons.mp hvalue with hequals | hvalue
        · exact .inr hequals
        · exact .inl (encode_isPlain hvalue)
    obtain ⟨written, happend, hwritten⟩ := ih (query ++ separator ++ encodePair pair)
    refine ⟨separator ++ encodePair pair ++ written, ?_, ?_⟩
    · have hstep : append query (pair :: added) = append ((if query.isEmpty then query
          else query ++ ['&']) ++ encodePair pair) added := rfl
      rw [hstep, hseparator, happend, List.append_assoc, List.append_assoc, List.append_assoc]
    · intro c hc
      rcases List.mem_append.mp hc with hnew | hrest
      · rcases List.mem_append.mp hnew with hsep | hchar
        · exact .inr (.inl (hmark c hsep))
        · exact (hpair c hchar).imp_right .inr
      · exact hwritten c hrest

/-- A query that holds no number sign is what stands between its mark and the first number sign. -/
theorem QueryWhole.between_marks {url : Url} (h : url.QueryWhole) :
    (url.marked.toList.takeWhile (· != '#')).drop 1 = (url.query.getD "").toList := by
  have hfragment : (printMarked "#" url.fragment).toList.takeWhile (· != '#') = [] := by
    cases url.fragment with
    | none => rfl
    | some text =>
      rw [printMarked, String.toList_append]
      rfl
  rw [marked, String.toList_append]
  cases hquery : url.query with
  | none => exact congrArg (List.drop 1) hfragment
  | some query =>
    have hbefore : ∀ c ∈ (printMarked "?" (some query)).toList, (c != '#') = true := by
      intro c hc
      rw [printMarked, String.toList_append] at hc
      rcases List.mem_append.mp hc with hmark | hmem
      · obtain rfl := List.mem_singleton.mp hmark
        rfl
      · exact bne_iff_ne.mpr fun hsign => h query hquery (hsign ▸ hmem)
    rw [List.takeWhile_append_of_pos hbefore, hfragment, List.append_nil, printMarked,
      String.toList_append]
    rfl

theorem QueryWhole.popIfEmpty {url : Url} (h : url.QueryWhole) : url.popIfEmpty.QueryWhole := by
  unfold Url.popIfEmpty
  split
  · exact h
  · exact h

theorem QueryWhole.push {url : Url} (h : url.QueryWhole) (text : String) :
    (url.push text).QueryWhole := by
  unfold Url.push
  split
  · exact h
  · exact h

theorem QueryWhole.addPairs {url : Url} (h : url.QueryWhole) (added : List (String × String)) :
    (url.addPairs added).QueryWhole := by
  unfold Url.addPairs
  split
  · exact h
  · rintro query ⟨rfl⟩ hmem
    obtain ⟨written, happend, hwritten⟩ :=
      Form.append_written ((url.query.getD "").toList) added
    rw [String.toList_ofList, happend, List.mem_append] at hmem
    rcases hmem with hold | hnew
    · cases hquery : url.query with
      | none =>
        rw [hquery] at hold
        exact List.not_mem_nil hold
      | some query =>
        rw [hquery] at hold
        exact h query hquery hold
    · rcases hwritten _ hnew with hplain | hmark | hmark
      · exact absurd hplain (by unfold Form.IsPlain; decide)
      · exact absurd hmark (by decide)
      · exact absurd hmark (by decide)

namespace Reader

theorem queryWhole_finish (scheme : String) (authority : Option Authority) (path : List String)
    (marked : List Char) : (finish scheme authority path marked).QueryWhole := by
  intro query hquery
  simp only [finish] at hquery
  split at hquery
  · obtain rfl := Option.some.inj hquery
    rw [String.toList_ofList]
    intro hmem
    have hkeeps := (Form.of_mem_percentEncode hmem (by unfold Form.IsPlain; decide)).2
    simp [queryKeeps] at hkeeps
  · cases hquery

end Reader

/-- No query of a URL that is read ends early. -/
theorem queryWhole_of_read {text : String} {url : Url} (h : read text = .ok (some url)) :
    url.QueryWhole := by
  obtain ⟨scheme, authority, path, marked, rfl, -⟩ := eq_finish_of_read h
  exact Reader.queryWhole_finish scheme authority path marked

end Url

/-! ### Requests -/

theorem Client.read_of_ofConfig {config : Config} {client : Client}
    (h : ofConfig config = .ok client) : Url.read config.url = .ok (some client.base) := by
  unfold ofConfig at h
  split at h
  · cases h
  · cases h
  · rename_i base hread
    obtain rfl := Except.ok.inj h
    exact hread

variable {access : Access} {config : Config} {client : Client} {relation : String}
  {operation : Operation access} {calls : List (Call access)} {request : Request}

/-- **Parameters arrive as they were given.**  Whatever text a client was made from, and whatever
calls a request was built with, the parameters that are read out of its URL are those in the query
of that text and behind them, pair by pair, those that the calls left in the draft. -/
theorem Draft.params_transported (hclient : Client.ofConfig config = .ok client)
    (hbuild : ((start client relation operation).applyAll calls).build = .ok request) :
    ∃ base, Url.read config.url = .ok (some base) ∧
      request.params =
        base.pairs ++ ((start client relation operation).applyAll calls).params := by
  refine ⟨client.base, Client.read_of_ofConfig hclient, ?_⟩
  have hparams := params_of_build hbuild
  rwa [client_applyAll, client_start] at hparams

/-- The base has a query of its own, in which a separator is part of a value; the filter puts
separators, a plus, a percent sign, quotes and a line end into a key and a value. -/
theorem Draft.params_transported_marks :
    ∃ client request,
      Client.ofUrl "http://localhost:3000/api?key=a%26b" = .ok client ∧
      ((start client "users" (.delete none)).applyAll
        ([.filter (.raw "na&me=" "eq" (.text "5% + \"#\n")), .filter (.raw "" "eq" (.text ""))] :
          List (Call .write))).build = .ok request ∧
      request.params =
        [("key", "a&b"), ("na&me=", "eq.5% + \"#\n"), ("", "eq.")] := by
  have hclient : Client.ofUrl "http://localhost:3000/api?key=a%26b" =
      .ok ⟨⟨"http", some ⟨"", "", "localhost", some 3000⟩, false, ["api"], some "key=a%26b",
        none⟩, none, []⟩ := by decide +kernel
  have hbuild : ((start ⟨⟨"http", some ⟨"", "", "localhost", some 3000⟩, false, ["api"],
      some "key=a%26b", none⟩, none, []⟩ "users" (.delete none)).applyAll
        ([.filter (.raw "na&me=" "eq" (.text "5% + \"#\n")), .filter (.raw "" "eq" (.text ""))] :
          List (Call .write))).build = .ok ⟨_, _, _, _, _⟩ := rfl
  obtain ⟨base, hread, hparams⟩ := params_transported hclient hbuild
  refine ⟨_, _, hclient, hbuild, ?_⟩
  rw [hparams]
  rw [Client.read_of_ofConfig hclient] at hread
  obtain rfl := Option.some.inj (Except.ok.inj hread)
  decide +kernel

/-! ### The text of a request -/

theorem Draft.queryWhole_of_build (hclient : Client.ofConfig config = .ok client)
    (hbuild : ((start client relation operation).applyAll calls).build = .ok request) :
    request.url.QueryWhole := by
  obtain ⟨-, -, rfl⟩ := build_eq_ok_iff.mp hbuild
  have hbase : ((start client relation operation).applyAll calls).client.base.QueryWhole := by
    rw [client_applyAll, client_start]
    exact Url.queryWhole_of_read (Client.read_of_ofConfig hclient)
  exact ((hbase.popIfEmpty).push _).addPairs _

/-- **The text of a request's URL is enough to read its parameters.**  They are the pairs in what
stands behind the path, from the mark of the query to the first number sign. -/
theorem Draft.params_in_text (hclient : Client.ofConfig config = .ok client)
    (hbuild : ((start client relation operation).applyAll calls).build = .ok request) :
    ∃ place, request.url.print = place ++ request.url.marked ∧
      Url.Form.pairs ((request.url.marked.toList.takeWhile (· != '#')).drop 1) =
        request.params := by
  obtain ⟨place, hplace⟩ := request.url.print_marked
  refine ⟨place, hplace, ?_⟩
  rw [(queryWhole_of_build hclient hbuild).between_marks]
  rfl

end GatewayQuery
