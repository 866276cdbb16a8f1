/-
The form in which a select expression is stored and sent: without the blanks outside quotes.

Outside quotes cleaning is a filter, so a text can be cleaned piece by piece; a quote changes what
the blanks behind it are.  What is clean has no blank left to drop, and its quotes are those of the
text.
-/
import GatewayQuery.Text.Blank

namespace GatewayQuery.Select

/-- Drops the blanks outside quotes, given whether a quote is open. -/
def cleanFrom (quoted : Bool) : List Char → List Char
  | [] => []
  | c :: cs =>
    if Text.isBlank c && !quoted then cleanFrom quoted cs
    else c :: cleanFrom (if c = '"' then !quoted else quoted) cs

/-- The expression without the blanks outside quotes. -/
def clean (input : String) : String := String.ofList (cleanFrom false input.toList)

/-! ### Cleaning a text in pieces -/

theorem cleanFrom_dropBlank (cs : List Char) :
    cleanFrom false (Text.dropBlank cs) = cleanFrom false cs := by
  induction cs with
  | nil => rfl
  | cons c cs ih =>
    by_cases hblank : Text.isBlank c = true
    · rw [Text.dropBlank, List.dropWhile_cons_of_pos hblank]
      rw [Text.dropBlank] at ih
      rw [ih]
      simp [cleanFrom, hblank]
    · rw [Text.dropBlank, List.dropWhile_cons_of_neg hblank]

/-- Outside quotes, what is neither blank nor a quote stays. -/
theorem cleanFrom_append {cs rest : List Char} (h : ∀ c ∈ cs, Text.isBlank c = false ∧ c ≠ '"') :
    cleanFrom false (cs ++ rest) = cs ++ cleanFrom false rest := by
  induction cs with
  | nil => rfl
  | cons c cs ih =>
    obtain ⟨hblank, hquote⟩ := h c (by simp)
    have htail := ih fun d hd => h d (List.mem_cons_of_mem c hd)
    rw [List.cons_append, cleanFrom, hblank, if_neg hquote, htail]
    rfl

/-- Inside quotes everything stays. -/
theorem cleanFrom_quoted {cs rest : List Char} (h : '"' ∉ cs) :
    cleanFrom true (cs ++ '"' :: rest) = cs ++ '"' :: cleanFrom false rest := by
  induction cs with
  | nil => simp [cleanFrom]
  | cons c cs ih =>
    rw [List.mem_cons, not_or] at h
    rw [List.cons_append, cleanFrom, if_neg (Ne.symm h.1), ih h.2]
    simp

/-! ### Cleaning again -/

theorem cleanFrom_cleanFrom (quoted : Bool) (cs : List Char) :
    cleanFrom quoted (cleanFrom quoted cs) = cleanFrom quoted cs := by
  induction cs generalizing quoted with
  | nil => rfl
  | cons c cs ih =>
    by_cases hdrop : (Text.isBlank c && !quoted) = true
    · rw [cleanFrom, if_pos hdrop]
      exact ih quoted
    · rw [cleanFrom, if_neg hdrop, cleanFrom, if_neg hdrop, ih]

theorem clean_clean (input : String) : clean (clean input) = clean input := by
  rw [clean, clean, String.toList_ofList, cleanFrom_cleanFrom]

end GatewayQuery.Select
