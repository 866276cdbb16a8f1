/-
Which relation a request addresses.

The URL of a request is that of the base with one more segment, and the name of the relation is
read back from that segment, whatever slashes, percent signs and marks are in it, if the name is one
that a segment can be pushed for.  Dots are none, and neither is a name with tabs or line ends in
it.  Such names do not fail.  They address another relation, or the base itself, or with two dots
and a tab the level above it.  There is one base for which no name is right, that with two empty
segments: the second is taken away, and the first is then taken for an empty path.

Both directions come from one look at what is written: whatever a push puts at the end of the path
is decoded to the plain part of the name or to nothing, so only a name that is all plain can be read
back.
-/
import GatewayQuery.Proofs.Request.Transport

namespace GatewayQuery

namespace Url

/-! ### The end of a path -/

/-- Segments without an empty one at their end. -/
def trunk (path : List String) : List String :=
  if path.getLast? = some "" then path.dropLast else path

/-- What a segment comes behind.  A single empty segment is an empty path. -/
def stem (path : List String) : List String := if path = ["", ""] then [] else trunk path

theorem trunk_subset (path : List String) : trunk path ⊆ path := by
  unfold trunk
  split
  · exact List.dropLast_subset path
  · exact List.Subset.refl path

theorem stem_subset (path : List String) : stem path ⊆ path := by
  unfold stem
  split
  · exact List.nil_subset path
  · exact trunk_subset path

theorem path_popIfEmpty (url : Url) :
    url.popIfEmpty.path = if url.path = [""] then [""] else trunk url.path := by
  unfold popIfEmpty trunk
  by_cases hroot : url.path = [""]
  · rw [if_neg fun h => h.2 hroot, if_pos hroot, hroot]
  · rw [if_neg hroot]
    by_cases hlast : url.path.getLast? = some ""
    · rw [if_pos ⟨hlast, hroot⟩, if_pos hlast]
    · rw [if_neg fun h => hlast h.1, if_neg hlast]

theorem scheme_popIfEmpty (url : Url) : url.popIfEmpty.scheme = url.scheme := by
  unfold popIfEmpty
  split <;> rfl

theorem trunk_eq_root_iff {path : List String} (h : path ≠ [""]) :
    trunk path = [""] ↔ path = ["", ""] := by
  unfold trunk
  constructor
  · intro htrunk
    split at htrunk
    · next hlast =>
      obtain ⟨front, rfl⟩ := List.getLast?_eq_some_iff.mp hlast
      rw [List.dropLast_concat] at htrunk
      rw [htrunk]
      rfl
    · exact absurd htrunk h
  · rintro rfl
    rfl

theorem stem_eq (url : Url) :
    (if url.popIfEmpty.path = [""] then [] else url.popIfEmpty.path) = stem url.path := by
  rw [path_popIfEmpty]
  by_cases hroot : url.path = [""]
  · rw [hroot]
    rfl
  · rw [if_neg hroot, stem]
    simp only [trunk_eq_root_iff hroot]

/-- The path with a text at its end, when an empty segment there is taken away first. -/
theorem path_popIfEmpty_push {url : Url} (hfile : url.isFile = false) (text : String) :
    (url.popIfEmpty.push text).path =
      if text = "." ∨ text = ".." then url.popIfEmpty.path
      else pushed url.isSpecial (stem url.path) (Reader.plain text.toList) := by
  have hfile' : url.popIfEmpty.isFile = false := by rwa [isFile, scheme_popIfEmpty]
  have hspecial : url.popIfEmpty.isSpecial = url.isSpecial := by
    rw [isSpecial, scheme_popIfEmpty, isSpecial]
  rw [path_push hfile', stem_eq, hspecial]

theorem SlashFree.popIfEmpty_push {url : Url} (h : SlashFree url.path)
    (hfile : url.isFile = false) (text : String) :
    SlashFree (url.popIfEmpty.push text).path := by
  rw [path_popIfEmpty_push hfile]
  split
  · rw [path_popIfEmpty]
    split
    · exact slashFree_empty
    · exact h.of_subset (trunk_subset url.path)
  · exact (h.of_subset (stem_subset url.path)).pushed _ _

/-! ### Names -/

/-- A text that a segment can be pushed for. -/
structure Pushable (text : String) : Prop where
  noDots : text ≠ "." ∧ text ≠ ".."
  plain : ∀ c ∈ text.toList, isDropped c = false

/-- A segment that stands for a text on its own: nothing in it ends a segment, and it does not lead
to another level. -/
structure Names (segment text : String) : Prop where
  decoded : decodeSegment segment = text
  whole : ∀ c ∈ segment.toList, c ∉ ['/', '\\', '?', '#']
  noDots : isSingleDot segment = false ∧ isDoubleDot segment = false

theorem Pushable.plain_eq {text : String} (h : Pushable text) :
    Reader.plain text.toList = text.toList :=
  List.filter_eq_self.mpr fun c hc => by rw [h.plain c hc]; rfl

theorem Pushable.toList_ne {text : String} (h : Pushable text) :
    text.toList ≠ ['.'] ∧ text.toList ≠ ['.', '.'] :=
  ⟨fun hone => h.noDots.1 (String.toList_injective hone),
    fun htwo => h.noDots.2 (String.toList_injective htwo)⟩

theorem Pushable.names {text : String} (h : Pushable text) :
    Names (encodeSegment true text.toList) text := by
  refine ⟨?_, ?_, noDots_encodeSegment true h.toList_ne.1 h.toList_ne.2⟩
  · rw [decodeSegment_encodeSegment, String.ofList_toList]
  · intro c hmem hmark
    rw [encodeSegment, String.toList_ofList] at hmem
    simp only [List.mem_cons, List.not_mem_nil, or_false] at hmark
    rcases hmark with rfl | rfl | rfl | rfl <;>
      exact absurd (Form.of_mem_percentEncode hmem (by unfold Form.IsPlain; decide)).2 (by decide)

theorem Pushable.path {text : String} (h : Pushable text) {url : Url}
    (hfile : url.isFile = false) :
    (url.popIfEmpty.push text).path =
      stem url.path ++ [encodeSegment url.isSpecial text.toList] := by
  rw [path_popIfEmpty_push hfile, if_neg (not_or.mpr h.noDots), h.plain_eq, pushed,
    if_neg h.toList_ne.2, if_neg h.toList_ne.1]

/-- At the end of the path stands the text, or an empty segment. -/
theorem pushed_eq_append (special : Bool) (path : List String) (text : List Char) :
    ∃ front segment, pushed special path text = front ++ [segment] ∧
      front.length ≤ path.length ∧
      (decodeSegment segment = "" ∨ decodeSegment segment = String.ofList text) := by
  unfold pushed
  split
  · refine ⟨parent path, "", rfl, ?_, .inl decodeSegment_empty⟩
    unfold parent
    split
    · exact Nat.zero_le _
    · split
      · exact Nat.le_refl _
      · rw [List.length_dropLast]
        exact Nat.sub_le _ _
  · split
    · exact ⟨path, "", rfl, Nat.le_refl _, .inl decodeSegment_empty⟩
    · exact ⟨path, _, rfl, Nat.le_refl _, .inr (decodeSegment_encodeSegment special text)⟩

theorem plain_of_read_back {text : String} (h : text = "" ∨
    text = String.ofList (Reader.plain text.toList)) : ∀ c ∈ text.toList, isDropped c = false := by
  intro c hc
  rcases h with rfl | hplain
  · exact absurd hc List.not_mem_nil
  · rw [hplain, String.toList_ofList] at hc
    simpa using (List.mem_filter.mp hc).2

/-- A text can be read back from the last segment, in front of which the path is as it was, exactly
if it can be pushed and the path is not the one that is taken for an empty one. -/
theorem exists_names_iff {url : Url} (hfile : url.isFile = false) (hspecial : url.isSpecial = true)
    (text : String) :
    (∃ segment, Names segment text ∧
      (url.popIfEmpty.push text).path = trunk url.path ++ [segment]) ↔
    Pushable text ∧ url.path ≠ ["", ""] := by
  constructor
  · rintro ⟨segment, hnames, hpath⟩
    by_cases hdots : text = "." ∨ text = ".."
    · rw [path_popIfEmpty_push hfile, if_pos hdots, path_popIfEmpty] at hpath
      split at hpath
      · next hroot =>
        rw [hroot] at hpath
        obtain rfl : "" = segment := (List.cons.inj hpath).1
        rw [← hnames.decoded, decodeSegment_empty] at hdots
        exact absurd hdots (by decide)
      · exact absurd hpath (by simp)
    · rw [path_popIfEmpty_push hfile, if_neg hdots] at hpath
      obtain ⟨front, last, hpushed, hlength, hend⟩ :=
        pushed_eq_append url.isSpecial (stem url.path) (Reader.plain text.toList)
      obtain ⟨rfl, hlast⟩ := List.append_inj' (hpushed.symm.trans hpath) rfl
      obtain rfl : last = segment := (List.cons.inj hlast).1
      rw [hnames.decoded] at hend
      refine ⟨⟨not_or.mp hdots, plain_of_read_back hend⟩, fun hroot => ?_⟩
      rw [hroot] at hlength
      exact absurd hlength (by decide)
  · rintro ⟨hpushable, hroot⟩
    refine ⟨_, hpushable.names, ?_⟩
    rw [hpushable.path hfile, hspecial, stem, if_neg hroot]

theorem path_addPairs (url : Url) (added : List (String × String)) :
    (url.addPairs added).path = url.path := by
  unfold addPairs
  split <;> rfl

theorem isFile_isSpecial_of_web {url : Url} (h : url.scheme = "http" ∨ url.scheme = "https") :
    url.isFile = false ∧ url.isSpecial = true := by
  unfold isFile isSpecial
  rcases h with h | h
  · rw [h]
    decide
  · rw [h]
    decide

end Url

/-! ### Requests -/

variable {access : Access} {config : Config} {client : Client} {relation : String}
  {operation : Operation access} {calls : List (Call access)} {request : Request}

/-- Only the base and the relation decide the path of a request. -/
theorem Draft.path_of_build
    (hbuild : ((start client relation operation).applyAll calls).build = .ok request) :
    request.url.path = (client.base.popIfEmpty.push relation).path := by
  have haddress : ((start client relation operation).applyAll calls).address =
      (client, relation) := by
    rw [address_applyAll, address_start]
  obtain ⟨hclient, hrelation⟩ := Prod.mk.inj haddress
  obtain ⟨-, -, rfl⟩ := build_eq_ok_iff.mp hbuild
  rw [Draft.url, Url.path_addPairs, hclient, hrelation]

theorem Client.segments_base (hclient : ofConfig config = .ok client) :
    client.base.segments = client.base.path :=
  Url.segments_eq_path (Url.slashFree_of_read (read_of_ofConfig hclient))

/-- The segments in the text of a request's URL are those that a push gives. -/
theorem Draft.segments_of_build (hclient : Client.ofConfig config = .ok client)
    (hfile : client.base.isFile = false)
    (hbuild : ((start client relation operation).applyAll calls).build = .ok request) :
    request.url.segments = (client.base.popIfEmpty.push relation).path := by
  have hbase := Url.slashFree_of_read (Client.read_of_ofConfig hclient)
  have hpath := path_of_build hbuild
  rw [Url.segments_eq_path (hpath ▸ hbase.popIfEmpty_push hfile relation), hpath]

/-- **Which relation a request addresses.**  For a base on the web, whatever the operation and the
calls are: the URL has the segments of the base, without an empty one at their end, and one more
that is decoded to the name of the relation, exactly if the name is no dots and holds neither tab
nor line end, and the base has not the path of two empty segments.  Of such names no two are written
into the same path. -/
theorem Draft.addressed_iff (hclient : Client.ofConfig config = .ok client)
    (hweb : client.base.scheme = "http" ∨ client.base.scheme = "https")
    (hbuild : ((start client relation operation).applyAll calls).build = .ok request) :
    ((∃ segment, Url.Names segment relation ∧
      request.url.segments = Url.trunk client.base.segments ++ [segment]) ↔
        Url.Pushable relation ∧ client.base.segments ≠ ["", ""]) ∧
    ∀ {access' : Access} (other : String) (operation' : Operation access')
      (calls' : List (Call access')) (request' : Request),
      ((start client other operation').applyAll calls').build = .ok request' →
      Url.Pushable relation → Url.Pushable other →
      request'.url.segments = request.url.segments → other = relation := by
  obtain ⟨hfile, hspecial⟩ := Url.isFile_isSpecial_of_web hweb
  rw [segments_of_build hclient hfile hbuild, Client.segments_base hclient]
  refine ⟨Url.exists_names_iff hfile hspecial relation, ?_⟩
  intro access' other operation' calls' request' hbuild' hrelation hother hsame
  rw [segments_of_build hclient hfile hbuild', hother.path hfile, hrelation.path hfile,
    hspecial] at hsame
  have hsegment := (List.cons.inj (List.append_cancel_left hsame)).1
  exact hother.names.decoded.symm.trans (hsegment ▸ hrelation.names.decoded)

/-- Two dots with a tab between them lead out of the base; a slash and a percent sign do not. -/
theorem Draft.addressed_iff_dots :
    ∃ client request request',
      Client.ofUrl "http://localhost:3000/rest/v1" = .ok client ∧
      ((start client ".\t." (.delete none)).applyAll ([] : List (Call .write))).build =
        .ok request ∧
      ((start client "../50%" (.delete none)).applyAll ([] : List (Call .write))).build =
        .ok request' ∧
      request.url.segments = ["rest", ""] ∧
      (¬∃ segment, Url.Names segment ".\t." ∧
        request.url.segments = Url.trunk client.base.segments ++ [segment]) ∧
      ∃ segment, Url.Names segment "../50%" ∧
        request'.url.segments = Url.trunk client.base.segments ++ [segment] := by
  have hclient : Client.ofUrl "http://localhost:3000/rest/v1" =
      .ok ⟨⟨"http", some ⟨"", "", "localhost", some 3000⟩, false, ["rest", "v1"], none, none⟩,
        none, []⟩ := by decide +kernel
  have hbuild : ∀ relation, ((start ⟨⟨"http", some ⟨"", "", "localhost", some 3000⟩, false,
      ["rest", "v1"], none, none⟩, none, []⟩ relation (.delete none)).applyAll
        ([] : List (Call .write))).build = .ok ⟨_, _, _, _, _⟩ := fun _ => rfl
  refine ⟨_, _, _, hclient, hbuild _, hbuild _, by decide +kernel, fun hnames => ?_, ?_⟩
  · have hpushable := ((addressed_iff hclient (.inl rfl) (hbuild _)).1.mp hnames).1
    exact absurd (hpushable.plain '\t' (by decide)) (by decide)
  · refine (addressed_iff hclient (.inl rfl) (hbuild _)).1.mpr ⟨⟨by decide, fun c hc => ?_⟩, ?_⟩
    · have hall : ("../50%".toList.all fun c => !Url.isDropped c) = true := by decide
      simpa using List.all_eq_true.mp hall c hc
    · decide +kernel

end GatewayQuery
