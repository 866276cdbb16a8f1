/-
Texts cut at a separator.

Cutting and joining undo each other as far as they can.  A text that is cut and joined
again is the same text, so it is told by its pieces.  Texts that are joined and cut again
come out as the pieces of each, one after the other: where the separator stands in one of
them there is no telling which text a piece belongs to.
-/

namespace GatewayQuery.Text

/-- The pieces between separators: one more than there are separators. -/
def split (separator : Char) (text : List Char) : List (List Char) :=
  match text with
  | [] => [[]]
  | c :: rest =>
    match split separator rest with
    | [] => [[c]]
    | first :: others =>
      if c = separator then [] :: first :: others else (c :: first) :: others

theorem split_ne_nil (separator : Char) (text : List Char) : split separator text ≠ [] := by
  cases text with
  | nil => simp [split]
  | cons c rest =>
    rw [split]
    split
    · simp
    · split <;> simp

theorem split_cons (separator c : Char) (rest : List Char) :
    ∃ first others, split separator rest = first :: others ∧
      split separator (c :: rest) =
        if c = separator then [] :: first :: others else (c :: first) :: others := by
  obtain ⟨first, others, hrest⟩ := List.exists_cons_of_ne_nil (split_ne_nil separator rest)
  refine ⟨first, others, hrest, ?_⟩
  rw [split, hrest]

/-- At a separator the pieces before it end and those after it begin. -/
theorem split_append (separator : Char) (text rest : List Char) :
    split separator (text ++ separator :: rest) =
      split separator text ++ split separator rest := by
  induction text with
  | nil =>
    obtain ⟨first, others, hrest, hcons⟩ := split_cons separator separator rest
    rw [List.nil_append, hcons, if_pos rfl, hrest]
    rfl
  | cons c text ih =>
    obtain ⟨first, others, htext, hcons⟩ := split_cons separator c text
    obtain ⟨first', others', htext', hcons'⟩ :=
      split_cons separator c (text ++ separator :: rest)
    rw [ih, htext, List.cons_append, List.cons.injEq] at htext'
    rw [List.cons_append, hcons', hcons, ← htext'.1, ← htext'.2]
    split <;> rfl

/-- Without a separator a text only makes the first piece behind it longer. -/
theorem split_append_of_not_mem {separator : Char} {text rest first : List Char}
    {others : List (List Char)} (h : separator ∉ text)
    (hrest : split separator rest = first :: others) :
    split separator (text ++ rest) = (text ++ first) :: others := by
  induction text with
  | nil => exact hrest
  | cons c text ih =>
    rw [List.mem_cons, not_or] at h
    rw [List.cons_append, split, ih h.2]
    exact if_neg fun hsame => h.1 hsame.symm

theorem split_of_not_mem {separator : Char} {text : List Char} (h : separator ∉ text) :
    split separator text = [text] := by
  have hsplit := split_append_of_not_mem h (show split separator [] = [] :: [] from rfl)
  rwa [List.append_nil] at hsplit

theorem not_mem_of_mem_split {separator : Char} {text piece : List Char}
    (h : piece ∈ split separator text) : separator ∉ piece := by
  induction text generalizing piece with
  | nil =>
    rw [List.mem_singleton.mp h]
    exact List.not_mem_nil
  | cons c text ih =>
    obtain ⟨first, others, htext, hcons⟩ := split_cons separator c text
    rw [htext] at ih
    rw [hcons] at h
    by_cases hsame : c = separator
    · rw [if_pos hsame] at h
      rcases List.mem_cons.mp h with rfl | hpiece
      · exact List.not_mem_nil
      · exact ih hpiece
    · rw [if_neg hsame] at h
      rcases List.mem_cons.mp h with rfl | hpiece
      · rw [List.mem_cons, not_or]
        exact ⟨Ne.symm hsame, ih List.mem_cons_self⟩
      · exact ih (List.mem_cons_of_mem _ hpiece)

/-- Joining the pieces of a text gives the text. -/
theorem intercalate_split (separator : Char) (text : List Char) :
    [separator].intercalate (split separator text) = text := by
  induction text with
  | nil => rfl
  | cons c text ih =>
    obtain ⟨first, others, htext, hcons⟩ := split_cons separator c text
    rw [htext] at ih
    rw [hcons]
    by_cases hsame : c = separator
    · rw [if_pos hsame, List.intercalate_cons_cons, ih, hsame]
      rfl
    · rw [if_neg hsame, List.intercalate_cons_cons_left, ih]

/-- Cutting what was joined gives the pieces of each text. -/
theorem split_intercalate (separator : Char) {texts : List (List Char)} (h : texts ≠ []) :
    split separator ([separator].intercalate texts) = texts.flatMap (split separator) := by
  induction texts with
  | nil => exact absurd rfl h
  | cons text rest ih =>
    cases rest with
    | nil => simp
    | cons next more =>
      have hjoin : [separator].intercalate (text :: next :: more) =
          text ++ separator :: [separator].intercalate (next :: more) := by
        rw [List.intercalate_cons_cons, List.append_assoc]
        rfl
      rw [hjoin, split_append, ih (by simp)]
      exact List.flatMap_cons.symm

/-- Two lists of texts are joined to the same exactly if they have the same pieces. -/
theorem intercalate_eq_iff (separator : Char) {texts others : List (List Char)} (h : texts ≠ [])
    (hothers : others ≠ []) :
    [separator].intercalate texts = [separator].intercalate others ↔
      texts.flatMap (split separator) = others.flatMap (split separator) := by
  rw [← split_intercalate separator h, ← split_intercalate separator hothers]
  constructor
  · intro hsame
    rw [hsame]
  · intro hpieces
    rw [← intercalate_split separator ([separator].intercalate texts), hpieces,
      intercalate_split]

end GatewayQuery.Text
