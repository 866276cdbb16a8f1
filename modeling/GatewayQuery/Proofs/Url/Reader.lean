/-
What every URL that is read has in common.

However a text is read, as a file or after a host or without one, its parts are put
together at the end by the same function.  So what is wanted of a part has to be shown
there once and not for each way of reading.  One thing does depend on the way: the path
comes out of segments, and these out of a text that was cut at its slashes, so that no
slash is left in any of them.  Leaving characters out, encoding others, going up for two
dots and setting a drive letter apart bring none back.
-/
import GatewayQuery.Proofs.Url.Path

namespace GatewayQuery.Url

theorem exists_of_map_eq_ok {ε α β : Type} {f : α → β} {result : Except ε α} {value : β}
    (h : result.map f = .ok value) : ∃ a, result = .ok a ∧ f a = value := by
  cases result with
  | error fault => cases h
  | ok a => exact ⟨a, rfl, Except.ok.inj h⟩

/-! ### Paths without a slash in a segment -/

theorem slash_not_mem_encode {keeps : Char → Bool} {text : List Char} (h : '/' ∉ text) :
    '/' ∉ (String.ofList (percentEncode keeps text)).toList := by
  intro hmem
  rw [String.toList_ofList] at hmem
  exact h (Form.of_mem_percentEncode hmem Form.not_isPlain_slash).1

theorem SlashFree.addSegment {path : List String} (h : SlashFree path) {segment : String}
    (hsegment : '/' ∉ segment.toList) (file last : Bool) :
    SlashFree (addSegment file path segment last) := by
  have hclose : ∀ {others : List String}, SlashFree others →
      SlashFree (if last = true then others ++ [""] else others) := by
    intro others hothers
    split
    · exact hothers.append slashFree_empty
    · exact hothers
  unfold Url.addSegment
  simp only
  split
  · exact hclose (h.of_subset (parent_subset path))
  · split
    · exact hclose h
    · split
      · refine slashFree_singleton fun hmem => ?_
        rw [String.toList_ofList] at hmem
        rcases List.mem_append.mp hmem with hletter | hcolon
        · exact hsegment (List.mem_of_mem_take hletter)
        · exact absurd (List.mem_singleton.mp hcolon) (by decide)
      · exact h.append (slashFree_singleton hsegment)

/-- A drive letter and what follows it are the whole text, but for characters that are dropped. -/
theorem append_of_cutDrive? {text drive rest : List Char}
    (h : cutDrive? text = some (drive, rest)) : drive ++ rest = Reader.plain text := by
  unfold cutDrive? at h
  split at h
  · next hplain =>
    split at h
    · obtain ⟨rfl, rfl⟩ := Prod.mk.inj (Option.some.inj h)
      exact hplain.symm
    · cases h
  · cases h

theorem SlashFree.addText {path : List String} (h : SlashFree path) {text : List Char}
    (htext : '/' ∉ text) (file : Bool) (keeps : Char → Bool) (last : Bool) :
    SlashFree (addText file keeps path text last) := by
  have hplain : '/' ∉ Reader.plain text := fun hmem => htext (List.mem_filter.mp hmem).1
  unfold Url.addText
  simp only
  split
  · next drive rest hcut =>
    split at hcut
    · rw [← append_of_cutDrive? hcut, List.mem_append, not_or] at hplain
      exact (slashFree_singleton (slash_not_mem_encode hplain.1)).append
        (slashFree_singleton (slash_not_mem_encode hplain.2))
    · cases hcut
  · exact h.addSegment (slash_not_mem_encode hplain) file last

theorem SlashFree.addTexts {path : List String} (h : SlashFree path) {texts : List (List Char)}
    (htexts : ∀ text ∈ texts, '/' ∉ text) (file : Bool) (keeps : Char → Bool) :
    SlashFree (addTexts file keeps path texts) := by
  induction texts generalizing path with
  | nil => exact h
  | cons text rest ih =>
    obtain ⟨htext, hrest⟩ := List.forall_mem_cons.mp htexts
    exact ih (h.addText htext file keeps rest.isEmpty) hrest

namespace Reader

theorem slashFree_addTexts (file special : Bool) (text : List Char) :
    SlashFree (addTexts file pathKeeps [] (segmentTexts special text)) :=
  SlashFree.addTexts (List.forall_mem_nil _) (fun _ => Text.not_mem_of_mem_split) file pathKeeps

theorem slashFree_pathAfterHost (special : Bool) (text : List Char) :
    SlashFree (pathAfterHost special text) := by
  unfold pathAfterHost
  split
  · split
    · exact slashFree_empty
    · exact List.forall_mem_nil _
  · exact slashFree_addTexts false special _

/-! ### The parts put together -/

theorem eq_finish_of_fileOn (host : String) (text : List Char) :
    ∃ authority path marked, fileOn host text = finish "file" authority path marked ∧
      SlashFree path := by
  refine ⟨_, _, _, rfl, ?_⟩
  split
  · exact slashFree_empty
  · exact (slashFree_addTexts true true _).of_subset (List.dropWhile_sublist _).subset

/-- Whatever a file is read as, its parts are put together at the end. -/
theorem eq_finish_of_file {text : List Char} {url : Url} (h : file text = .ok url) :
    ∃ authority path marked, url = finish "file" authority path marked ∧ SlashFree path := by
  unfold file at h
  split at h
  · exact Except.ok.inj h ▸ eq_finish_of_fileOn _ _
  · split at h
    · exact Except.ok.inj h ▸ eq_finish_of_fileOn _ _
    · simp only at h
      split at h
      · exact Except.ok.inj h ▸ eq_finish_of_fileOn _ _
      · split at h
        · exact Except.ok.inj h ▸ eq_finish_of_fileOn _ _
        · obtain ⟨host, -, rfl⟩ := exists_of_map_eq_ok h
          split
          · exact eq_finish_of_fileOn _ _
          · exact eq_finish_of_fileOn _ _

end Reader

/-- Every URL that is read is put together from its parts at the end. -/
theorem eq_finish_of_read {text : String} {url : Url} (h : read text = .ok (some url)) :
    ∃ scheme authority path marked, url = Reader.finish scheme authority path marked ∧
      SlashFree path := by
  have honHost : ∀ (scheme : String) (text : List Char),
      (Reader.authority scheme text).map (fun found =>
        some (Reader.finish scheme (some found.1)
          (Reader.pathAfterHost (isSpecialScheme scheme) (Reader.splitPath found.2).1)
          (Reader.splitPath found.2).2)) = .ok (some url) →
      ∃ scheme authority path marked, url = Reader.finish scheme authority path marked ∧
        SlashFree path := by
    intro scheme text hmap
    obtain ⟨⟨authority, after⟩, -, hurl⟩ := exists_of_map_eq_ok hmap
    exact ⟨_, _, _, _, (Option.some.inj hurl).symm, Reader.slashFree_pathAfterHost _ _⟩
  unfold read at h
  simp only at h
  split at h
  · cases h
  · obtain ⟨file, hfile, hsame⟩ := exists_of_map_eq_ok h
    exact ⟨_, Reader.eq_finish_of_file (Option.some.inj hsame ▸ hfile)⟩
  · split at h
    · exact honHost _ _ h
    · split at h
      · exact honHost _ _ h
      · obtain rfl := Option.some.inj (Except.ok.inj h)
        exact ⟨_, _, _, _, rfl, Reader.slashFree_addTexts false false _⟩
      · cases h

/-- No slash stands in a segment of a URL that is read. -/
theorem slashFree_of_read {text : String} {url : Url} (h : read text = .ok (some url)) :
    SlashFree url.path := by
  obtain ⟨scheme, authority, path, marked, rfl, hpath⟩ := eq_finish_of_read h
  exact hpath

end GatewayQuery.Url
