/-
Blanks at the ends of a text.

Each end is trimmed by itself, so a text is trimmed to the same one with blanks at either end and
without them, and an end at which something else stands stays as it is.
-/
import GatewayQuery.Text.Blank

namespace GatewayQuery.Text

/-! ### In front -/

theorem dropBlank_append {blanks : List Char} (h : ∀ c ∈ blanks, isBlank c = true)
    (text : List Char) : dropBlank (blanks ++ text) = dropBlank text :=
  List.dropWhile_append_of_pos h

theorem dropBlank_cons {c : Char} (h : isBlank c = false) (text : List Char) :
    dropBlank (c :: text) = c :: text :=
  List.dropWhile_cons_of_neg (by simp [h])

/-- A character that is no blank keeps its place behind a text. -/
theorem dropBlank_concat {c : Char} (h : isBlank c = false) (text : List Char) :
    dropBlank (text ++ [c]) = dropBlank text ++ [c] := by
  have hc : dropBlank [c] = [c] := dropBlank_cons h []
  unfold dropBlank at hc ⊢
  rw [List.dropWhile_append]
  split
  · next hempty => rw [List.isEmpty_iff.mp hempty, hc, List.nil_append]
  · rfl

/-- What is dropped is blank. -/
theorem isBlank_of_mem_takeWhile {text : List Char} :
    ∀ c ∈ text.takeWhile isBlank, isBlank c = true :=
  List.all_eq_true.mp List.all_takeWhile

theorem takeWhile_append_dropBlank (text : List Char) :
    text.takeWhile isBlank ++ dropBlank text = text :=
  List.takeWhile_append_dropWhile

theorem exists_blanks (text : List Char) :
    ∃ blanks, (∀ c ∈ blanks, isBlank c = true) ∧ text = blanks ++ dropBlank text :=
  ⟨_, isBlank_of_mem_takeWhile, (takeWhile_append_dropBlank text).symm⟩

theorem isBlank_of_dropBlank {text rest : List Char} {c : Char} (h : dropBlank text = c :: rest) :
    isBlank c = false := by
  have hnot := List.head?_dropWhile_not isBlank text
  rw [← dropBlank, h] at hnot
  exact hnot

/-! ### At both ends -/

/-- The text without the blanks at its end. -/
def trimEnd (text : List Char) : List Char := (dropBlank text.reverse).reverse

theorem length_trimEnd_le (text : List Char) : (trimEnd text).length ≤ text.length := by
  have hle := length_dropBlank_le text.reverse
  rwa [List.length_reverse, ← List.length_reverse] at hle

theorem trimBlank_eq (text : List Char) : trimBlank text = trimEnd (dropBlank text) := rfl

theorem trimBlank_append {blanks : List Char} (h : ∀ c ∈ blanks, isBlank c = true)
    (text : List Char) : trimBlank (blanks ++ text) = trimBlank text := by
  rw [trimBlank_eq, dropBlank_append h, trimBlank_eq]

theorem trimBlank_dropBlank (text : List Char) : trimBlank (dropBlank text) = trimBlank text := by
  obtain ⟨blanks, hblanks, htext⟩ := exists_blanks text
  calc trimBlank (dropBlank text) = trimBlank (blanks ++ dropBlank text) :=
        (trimBlank_append hblanks _).symm
    _ = trimBlank text := congrArg trimBlank htext.symm

theorem trimBlank_append_blanks {blanks : List Char} (h : ∀ c ∈ blanks, isBlank c = true)
    (text : List Char) : trimBlank (text ++ blanks) = trimBlank text := by
  have hblanks : dropBlank blanks = [] := by
    rw [← List.append_nil blanks, dropBlank_append h]
    rfl
  have hreverse : ∀ c ∈ blanks.reverse, isBlank c = true :=
    fun c hc => h c (List.mem_reverse.mp hc)
  have hfront : dropBlank (text ++ blanks) = dropBlank text ∨
      dropBlank (text ++ blanks) = dropBlank text ++ blanks := by
    unfold dropBlank at hblanks ⊢
    rw [List.dropWhile_append]
    split
    · next hempty => exact .inl (by rw [hblanks, List.isEmpty_iff.mp hempty])
    · exact .inr rfl
  rw [trimBlank_eq, trimBlank_eq]
  rcases hfront with hfront | hfront
  · rw [hfront]
  · rw [hfront, trimEnd, List.reverse_append, dropBlank_append hreverse, trimEnd]

/-- Where a text is trimmed only blanks are left out. -/
theorem exists_blanks_around (text : List Char) :
    ∃ front back, (∀ c ∈ front, isBlank c = true) ∧ (∀ c ∈ back, isBlank c = true) ∧
      text = front ++ (trimBlank text ++ back) := by
  obtain ⟨front, hfront, htext⟩ := exists_blanks text
  obtain ⟨blanks, hblanks, hreverse⟩ := exists_blanks (dropBlank text).reverse
  have hend : dropBlank text = trimBlank text ++ blanks.reverse := by
    rw [trimBlank, ← List.reverse_append, ← hreverse, List.reverse_reverse]
  refine ⟨front, blanks.reverse, hfront, fun c hc => hblanks c (List.mem_reverse.mp hc), ?_⟩
  rw [← hend]
  exact htext

theorem trimBlank_trimEnd (text : List Char) : trimBlank (trimEnd text) = trimBlank text := by
  obtain ⟨blanks, hblanks, htext⟩ := exists_blanks text.reverse
  have hend : text = trimEnd text ++ blanks.reverse := by
    rw [trimEnd, ← List.reverse_append, ← htext, List.reverse_reverse]
  have hback : ∀ c ∈ blanks.reverse, isBlank c = true :=
    fun c hc => hblanks c (List.mem_reverse.mp hc)
  calc trimBlank (trimEnd text) = trimBlank (trimEnd text ++ blanks.reverse) :=
        (trimBlank_append_blanks hback _).symm
    _ = trimBlank text := congrArg trimBlank hend.symm

/-- Where a text begins with something else only its end is trimmed. -/
theorem trimBlank_cons {c : Char} (h : isBlank c = false) (text : List Char) :
    trimBlank (c :: text) = c :: trimEnd text := by
  rw [trimBlank_eq, dropBlank_cons h, trimEnd, List.reverse_cons, dropBlank_concat h,
    List.reverse_append]
  rfl

/-- Where it ends with something else only its front is. -/
theorem trimBlank_concat {c : Char} (h : isBlank c = false) (text : List Char) :
    trimBlank (text ++ [c]) = dropBlank text ++ [c] := by
  rw [trimBlank_eq, dropBlank_concat h, trimEnd, List.reverse_append]
  exact (congrArg List.reverse (dropBlank_cons h _)).trans (by simp)

end GatewayQuery.Text
