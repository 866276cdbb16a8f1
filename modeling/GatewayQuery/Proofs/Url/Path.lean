/-
Segments of a path, and a text that is pushed onto it as one more.

The text of a path is cut at its slashes, so a segment is told from the text only if no slash stands
in it.  Reading a URL leaves none in its segments (`Proofs/Url/Reader.lean`) and neither does a
push, which writes a text in percent encoding, slashes and percent signs included.  What is written
is decoded to the text again.

Two kinds of texts do not get there.  Dots are no segment: one dot or two are not pushed at all.
And tabs and line ends are passed over, as everywhere in a URL, so a text that holds some is pushed
as another text; that one may be dots after all, and two dots then take the path up.  `path_push`
has all of this in one equation.
-/
import GatewayQuery.Proofs.Url.Form
import GatewayQuery.Url.Reader

namespace GatewayQuery.Url

open Text (utf8)

/-! ### Segments in the text of a path -/

/-- The segments of a URL as they stand in its text, between the slashes of the path. -/
def segments (url : Url) : List String :=
  (Text.split '/' (printPath url.path).toList).tail.map String.ofList

/-- No slash stands in a segment. -/
def SlashFree (path : List String) : Prop := ∀ segment ∈ path, '/' ∉ segment.toList

theorem split_printPath {path : List String} (h : SlashFree path) :
    Text.split '/' (printPath path).toList = [] :: path.map String.toList := by
  induction path with
  | nil => rfl
  | cons segment rest ih =>
    obtain ⟨hsegment, hrest⟩ := List.forall_mem_cons.mp h
    have hprint : (printPath (segment :: rest)).toList =
        [] ++ '/' :: (segment.toList ++ (printPath rest).toList) := by
      simp [printPath, String.join_cons]
    rw [hprint, Text.split_append, Text.split_append_of_not_mem hsegment (ih hrest),
      List.append_nil]
    rfl

/-- Where no slash stands in them, the segments that a URL holds are those of its text. -/
theorem segments_eq_path {url : Url} (h : SlashFree url.path) : url.segments = url.path := by
  rw [segments, split_printPath h, List.tail_cons, List.map_map]
  have hid : String.ofList ∘ String.toList = id := funext fun _ => String.ofList_toList
  rw [hid, List.map_id]

theorem SlashFree.append {path others : List String} (h : SlashFree path)
    (hothers : SlashFree others) : SlashFree (path ++ others) :=
  List.forall_mem_append.mpr ⟨h, hothers⟩

theorem SlashFree.of_subset {path others : List String} (h : SlashFree path)
    (hsub : others ⊆ path) : SlashFree others :=
  fun segment hmem => h segment (hsub hmem)

theorem slashFree_singleton {segment : String} (h : '/' ∉ segment.toList) :
    SlashFree [segment] := by
  intro other hother
  rwa [List.mem_singleton.mp hother]

theorem slashFree_empty : SlashFree [""] := slashFree_singleton List.not_mem_nil

theorem parent_subset (path : List String) : parent path ⊆ path := by
  unfold parent
  split
  · exact List.nil_subset _
  · split
    · exact List.Subset.refl _
    · exact List.dropLast_subset _

/-! ### Segments as texts -/

/-- The text that a segment stands for. -/
def decodeSegment (segment : String) : String :=
  String.ofList (Text.decodeUtf8 (percentDecode (utf8 segment.toList)))

theorem segmentKeeps_bounds {special : Bool} {c : Char} (h : segmentKeeps special c = true) :
    c.toNat < 128 ∧ c ≠ '/' ∧ c ≠ '%' := by
  simp only [segmentKeeps, pathKeeps, fragmentKeeps, isPlain, Bool.and_eq_true, decide_eq_true_eq,
    Bool.not_eq_true', Bool.or_eq_false_iff, beq_eq_false_iff_ne] at h
  obtain ⟨⟨⟨⟨⟨-, hhigh⟩, -⟩, -⟩, hslash, hpercent⟩, -⟩ := h
  exact ⟨by omega, hslash, hpercent⟩

/-- What a text is written as. -/
def encodeSegment (special : Bool) (text : List Char) : String :=
  String.ofList (percentEncode (segmentKeeps special) text)

theorem decodeSegment_encodeSegment (special : Bool) (text : List Char) :
    decodeSegment (encodeSegment special text) = String.ofList text := by
  have hpercent : segmentKeeps special '%' = false := by cases special <;> decide
  have hbytes := percentDecode_percentEncode hpercent
    (fun c hc => (segmentKeeps_bounds hc).1) text []
  rw [List.append_nil, percentDecode, List.append_nil] at hbytes
  rw [decodeSegment, encodeSegment, String.toList_ofList, hbytes, Text.decodeUtf8_utf8]

theorem decodeSegment_empty : decodeSegment "" = "" := decodeSegment_encodeSegment true []

theorem slash_not_mem_encodeSegment (special : Bool) (text : List Char) :
    '/' ∉ (encodeSegment special text).toList := by
  intro hmem
  rw [encodeSegment, String.toList_ofList] at hmem
  exact (segmentKeeps_bounds (Form.of_mem_percentEncode hmem Form.not_isPlain_slash).2).2.1 rfl

/-! ### Dots -/

/-- A character in lower case is that character, or comes from a capital. -/
theorem toLower_eq_cases {c d : Char} (h : c.toLower = d) :
    c = d ∨ 65 ≤ c.toNat ∧ c.toNat ≤ 90 ∧ d.toNat = c.toNat + 32 := by
  unfold Char.toLower at h
  split at h
  · next hupper =>
    obtain ⟨hlow, hhigh⟩ := hupper
    have hlow' : 65 ≤ c.toNat := hlow
    have hhigh' : c.toNat ≤ 90 := hhigh
    have hcode : d.val = c.val + 32 := (congrArg Char.val h).symm
    refine .inr ⟨hlow', hhigh', ?_⟩
    have hnat := congrArg UInt32.toNat hcode
    rw [UInt32.toNat_add] at hnat
    have hc : c.val.toNat = c.toNat := rfl
    have hd : d.val.toNat = d.toNat := rfl
    have h32 : (32 : UInt32).toNat = 32 := rfl
    omega
  · exact .inl h

theorem eq_of_toLower_eq {c d : Char} (hd : d.toNat < 97) (h : c.toLower = d) : c = d := by
  rcases toLower_eq_cases h with hsame | hupper
  · exact hsame
  · omega

theorem eq_e_of_toLower_eq {c : Char} (h : c.toLower = 'e') : c = 'e' ∨ c = 'E' := by
  refine (toLower_eq_cases h).imp_right fun hupper => Char.toNat_inj.mp ?_
  have he : 'e'.toNat = 101 := rfl
  have hE : 'E'.toNat = 69 := rfl
  omega

/-- The spellings of a text in which the only letter is an e. -/
def spellings : List Char → List (List Char)
  | [] => [[]]
  | c :: rest =>
    (if c = 'e' then ['e', 'E'] else [c]).flatMap fun d => (spellings rest).map (d :: ·)

theorem mem_spellings {text lower : List Char} (h : text.map Char.toLower = lower)
    (hlower : ∀ c ∈ lower, c.toNat < 97 ∨ c = 'e') : text ∈ spellings lower := by
  subst h
  induction text with
  | nil => exact List.mem_singleton.mpr rfl
  | cons c rest ih =>
    obtain ⟨hc, hrest⟩ := List.forall_mem_cons.mp hlower
    rw [List.map_cons, spellings]
    refine List.mem_flatMap.mpr ⟨c, ?_, List.mem_map.mpr ⟨rest, ih hrest, rfl⟩⟩
    rcases hc with hc | hc
    · rw [← eq_of_toLower_eq hc rfl]
      split
      · next he => rw [he]; exact List.mem_cons_self
      · exact List.mem_cons_self
    · rw [if_pos hc]
      rcases eq_e_of_toLower_eq hc with rfl | rfl <;> simp

/-- A segment is decoded to a text if all its spellings are. -/
theorem decodeSegment_of_toLower {segment : String} {lower text : List Char}
    (h : segment.toLower = String.ofList lower)
    (hlower : lower.all (fun c => c.toNat < 97 || c == 'e') = true)
    (hbytes : ∀ spelling ∈ spellings lower, percentDecode (utf8 spelling) = utf8 text) :
    decodeSegment segment = String.ofList text := by
  have hmap : (segment.map Char.toLower).toList = (String.ofList lower).toList :=
    congrArg String.toList h
  rw [String.toList_map, String.toList_ofList] at hmap
  have hmem := mem_spellings hmap fun c hc => by simpa using List.all_eq_true.mp hlower c hc
  rw [decodeSegment, hbytes _ hmem, Text.decodeUtf8_utf8]

theorem decodeSegment_of_isSingleDot {segment : String} (h : isSingleDot segment = true) :
    decodeSegment segment = "." := by
  simp only [isSingleDot, List.contains_iff_mem, List.mem_cons, List.not_mem_nil, or_false] at h
  rcases h with h | h
  · exact decodeSegment_of_toLower h (by decide) (by decide)
  · exact decodeSegment_of_toLower h (by decide) (by decide)

theorem decodeSegment_of_isDoubleDot {segment : String} (h : isDoubleDot segment = true) :
    decodeSegment segment = ".." := by
  simp only [isDoubleDot, List.contains_iff_mem, List.mem_cons, List.not_mem_nil, or_false] at h
  rcases h with h | h | h | h
  · exact decodeSegment_of_toLower h (by decide) (by decide)
  · exact decodeSegment_of_toLower h (by decide) (by decide)
  · exact decodeSegment_of_toLower h (by decide) (by decide)
  · exact decodeSegment_of_toLower h (by decide) (by decide)

/-- No text is written as dots but dots. -/
theorem noDots_encodeSegment (special : Bool) {text : List Char} (hone : text ≠ ['.'])
    (htwo : text ≠ ['.', '.']) :
    isSingleDot (encodeSegment special text) = false ∧
      isDoubleDot (encodeSegment special text) = false := by
  have hdecode := decodeSegment_encodeSegment special text
  constructor
  · refine Bool.eq_false_iff.mpr fun h => hone ?_
    rw [decodeSegment_of_isSingleDot h] at hdecode
    exact String.ofList_injective hdecode.symm
  · refine Bool.eq_false_iff.mpr fun h => htwo ?_
    rw [decodeSegment_of_isDoubleDot h] at hdecode
    exact String.ofList_injective hdecode.symm

/-! ### Pushing -/

/-- A path with a text behind it.  Of two dots only their effect is left, of one dot nothing, and an
empty segment in either case. -/
def pushed (special : Bool) (path : List String) (text : List Char) : List String :=
  if text = ['.', '.'] then parent path ++ [""]
  else if text = ['.'] then path ++ [""]
  else path ++ [encodeSegment special text]

theorem addText_eq_pushed (special : Bool) (path : List String) (text : List Char) :
    addText false (segmentKeeps special) path text true =
      pushed special path (Reader.plain text) := by
  have hadd : addText false (segmentKeeps special) path text true =
      addSegment false path (encodeSegment special (Reader.plain text)) true := rfl
  have htwo : encodeSegment special ['.', '.'] = ".." := by cases special <;> rfl
  have hone : encodeSegment special ['.'] = "." := by cases special <;> rfl
  have hup : isDoubleDot ".." = true := by decide +kernel
  have hnot : isDoubleDot "." = false := by decide +kernel
  have hstay : isSingleDot "." = true := by decide +kernel
  rw [hadd, pushed]
  by_cases hdots : Reader.plain text = ['.', '.']
  · rw [if_pos hdots, hdots, htwo, addSegment, if_pos hup]
    rfl
  · rw [if_neg hdots]
    by_cases hdot : Reader.plain text = ['.']
    · rw [if_pos hdot, hdot, hone, addSegment, hnot, if_neg Bool.false_ne_true, if_pos hstay]
      rfl
    · obtain ⟨hsingle, hdouble⟩ := noDots_encodeSegment special hdot hdots
      rw [if_neg hdot, addSegment, hdouble, hsingle]
      rfl

/-- The path after a push: a dot or two dots leave it, and of any other text only what is plain
counts. -/
theorem path_push {url : Url} (hfile : url.isFile = false) (text : String) :
    (url.push text).path =
      if text = "." ∨ text = ".." then url.path
      else pushed url.isSpecial (if url.path = [""] then [] else url.path)
        (Reader.plain text.toList) := by
  unfold push
  split
  · rfl
  · rw [hfile]
    exact addText_eq_pushed _ _ _

theorem SlashFree.pushed {path : List String} (h : SlashFree path) (special : Bool)
    (text : List Char) : SlashFree (pushed special path text) := by
  unfold Url.pushed
  split
  · exact (h.of_subset (parent_subset path)).append slashFree_empty
  · split
    · exact h.append slashFree_empty
    · exact h.append (slashFree_singleton (slash_not_mem_encodeSegment special text))

end GatewayQuery.Url
