/-
Places in a text.

Spans count bytes, and what they cover are characters; the two agree as long as a span begins and
ends between two characters.  Here a text is cut at such places, and then what a span covers is one
of the pieces.

`Covers` says that spans cut a text one behind the other and pass over nothing but blanks.  It is
the invariant of whatever reads a text from the front, one piece at a time.
-/
import GatewayQuery.Text.Blank
import GatewayQuery.Text.Span

namespace GatewayQuery.Text

theorem byteLength_pos {cs : List Char} (h : cs ≠ []) : 0 < byteLength cs := by
  cases cs with
  | nil => exact absurd rfl h
  | cons c cs =>
    have := c.utf8Size_pos
    rw [byteLength_cons]
    omega

theorem exists_byteLength_cons (c : Char) (cs : List Char) :
    ∃ count, c.utf8Size + byteLength cs = count + 1 := by
  have := c.utf8Size_pos
  exact ⟨c.utf8Size + byteLength cs - 1, by omega⟩

/-! ### Pieces -/

theorem dropBytes?_append (front back : List Char) :
    dropBytes? (byteLength front) (front ++ back) = some back := by
  induction front with
  | nil =>
    rw [byteLength_nil, List.nil_append, dropBytes?]
  | cons c front ih =>
    obtain ⟨count, hcount⟩ := exists_byteLength_cons c front
    rw [byteLength_cons, List.cons_append, hcount, dropBytes?, ← hcount,
      if_neg (Nat.not_lt.mpr (Nat.le_add_right ..)), Nat.add_sub_cancel_left]
    exact ih

theorem takeBytes?_append (front back : List Char) :
    takeBytes? (byteLength front) (front ++ back) = some front := by
  induction front with
  | nil =>
    rw [byteLength_nil, takeBytes?]
  | cons c front ih =>
    obtain ⟨count, hcount⟩ := exists_byteLength_cons c front
    rw [byteLength_cons, List.cons_append, hcount, takeBytes?, ← hcount,
      if_neg (Nat.not_lt.mpr (Nat.le_add_right ..)), Nat.add_sub_cancel_left, ih]
    rfl

/-- What is left of a text from a place on. -/
theorem remainder_append (front back : List Char) (stop : Nat) {input : String}
    (h : input.toList = front ++ back) :
    Span.remainder ⟨byteLength front, stop⟩ input = String.ofList back := by
  rw [Span.remainder, h, dropBytes?_append]
  rfl

/-- What a span covers. -/
theorem slice_append (front inside back : List Char) {input : String}
    (h : input.toList = front ++ (inside ++ back)) :
    Span.slice ⟨byteLength front, byteLength front + byteLength inside⟩ input =
      String.ofList inside := by
  rw [Span.slice, if_neg (Nat.not_lt.mpr (Nat.le_add_right ..)), h, dropBytes?_append,
    Nat.add_sub_cancel_left, Option.bind_some, takeBytes?_append]
  rfl

/-- A character of a text in two parts stands in the first of them or behind it. -/
theorem character_cases {first second front back : List Char} {c : Char}
    (h : first ++ second = front ++ c :: back) :
    (c ∈ first ∧ byteLength front < byteLength first) ∨
      ∃ left, front = first ++ left ∧ second = left ++ c :: back := by
  rcases List.append_eq_append_iff.mp h with hbehind | ⟨cut, rfl, hcut⟩
  · exact .inr hbehind
  · cases cut with
    | nil => exact .inr ⟨[], by simp, hcut.symm⟩
    | cons d cut =>
      obtain ⟨rfl, -⟩ := List.cons.inj hcut
      have hpos := byteLength_pos (List.cons_ne_nil c cut)
      exact .inl ⟨by simp, by rw [byteLength_append]; omega⟩

/-! ### Spans one behind the other -/

/-- The byte at the offset is covered by the span. -/
def Span.Holds (span : Span) (offset : Nat) : Prop := span.start ≤ offset ∧ offset < span.stop

/-- The spans cut the text that begins at an offset, and before each of them only blanks are left
out. -/
inductive Covers : (offset : Nat) → List Char → List Span → Prop
  | nil {offset : Nat} {cs : List Char} : Covers offset cs []
  | cons {offset : Nat} {gap inside rest : List Char} {spans : List Span}
      (hgap : ∀ c ∈ gap, isBlank c = true)
      (hrest : Covers (offset + byteLength gap + byteLength inside) rest spans) :
      Covers offset (gap ++ (inside ++ rest))
        (⟨offset + byteLength gap, offset + byteLength gap + byteLength inside⟩ :: spans)

namespace Covers

variable {offset : Nat} {cs : List Char} {spans : List Span}

/-- No span begins before the text or before the end of an earlier one. -/
theorem ordered (h : Covers offset cs spans) :
    (∀ span ∈ spans, offset ≤ span.start) ∧
      spans.Pairwise fun span next => span.stop ≤ next.start := by
  induction h with
  | nil => simp
  | cons _ _ ih =>
    obtain ⟨hfrom, hpairs⟩ := ih
    simp only [List.pairwise_cons, List.mem_cons, forall_eq_or_imp]
    refine ⟨⟨by omega, fun span hmem => ?_⟩, fun span hmem => hfrom span hmem, hpairs⟩
    have := hfrom span hmem
    omega

/-- Every span is a piece of the text. -/
theorem piece (h : Covers offset cs spans) :
    ∀ span ∈ spans, ∃ front inside back, cs = front ++ (inside ++ back) ∧
      span = ⟨offset + byteLength front, offset + byteLength front + byteLength inside⟩ := by
  induction h with
  | nil => simp
  | @cons offset gap inside rest spans _ _ ih =>
    simp only [List.mem_cons, forall_eq_or_imp]
    refine ⟨⟨gap, inside, rest, rfl, rfl⟩, fun span hmem => ?_⟩
    obtain ⟨front, covered, back, rfl, rfl⟩ := ih span hmem
    refine ⟨gap ++ (inside ++ front), covered, back, by simp, ?_⟩
    simp only [byteLength_append, Nat.add_assoc]

/-- A character before the end of some span is in one of them, or it is blank. -/
theorem blank (h : Covers offset cs spans) {front back : List Char} {c : Char}
    (hcs : cs = front ++ c :: back)
    (hbefore : ∃ span ∈ spans, offset + byteLength front < span.stop)
    (houtside : ∀ span ∈ spans, ¬span.Holds (offset + byteLength front)) : isBlank c = true := by
  induction h generalizing front with
  | nil => simp at hbefore
  | @cons offset gap inside rest spans hgap hrest ih =>
    simp only [List.mem_cons, exists_eq_or_imp, forall_eq_or_imp] at hbefore houtside
    obtain ⟨hnot, hothers⟩ := houtside
    rcases character_cases hcs with ⟨hmem, -⟩ | ⟨reach, rfl, hreach⟩
    · exact hgap c hmem
    · rcases character_cases hreach with ⟨-, hlt⟩ | ⟨left, rfl, hleft⟩
      · simp only [Span.Holds, byteLength_append] at hnot
        omega
      · simp only [byteLength_append, ← Nat.add_assoc] at hbefore hothers
        refine ih hleft ?_ hothers
        rcases hbefore with hfirst | hlater
        · omega
        · exact hlater

end Covers

end GatewayQuery.Text
