/-
Blank characters, in the sense of the Unicode property `White_Space`.  They separate the tokens
of a select expression and are trimmed from the ends of a type name.
-/

namespace GatewayQuery.Text

/-- The twenty-five characters with the Unicode property `White_Space`. -/
def isBlank (c : Char) : Bool :=
  let n := c.toNat
  (9 ≤ n && n ≤ 13) || n == 0x20 || n == 0x85 || n == 0xA0 || n == 0x1680 ||
    (0x2000 ≤ n && n ≤ 0x200A) || n == 0x2028 || n == 0x2029 || n == 0x202F || n == 0x205F ||
    n == 0x3000

/-- The list without the blanks it begins with. -/
def dropBlank (cs : List Char) : List Char := cs.dropWhile isBlank

/-- The list without the blanks at its two ends. -/
def trimBlank (cs : List Char) : List Char := (dropBlank (dropBlank cs).reverse).reverse

theorem length_dropWhile_le {α : Type} (p : α → Bool) (xs : List α) :
    (xs.dropWhile p).length ≤ xs.length :=
  (List.dropWhile_suffix p).sublist.length_le

theorem length_dropBlank_le (cs : List Char) : (dropBlank cs).length ≤ cs.length :=
  length_dropWhile_le isBlank cs

theorem length_lt_of_dropBlank {cs rest : List Char} {c : Char} (h : dropBlank cs = c :: rest) :
    rest.length < cs.length := by
  have := length_dropBlank_le cs
  rw [h] at this
  exact Nat.lt_of_succ_le this

theorem length_trimBlank_le (cs : List Char) : (trimBlank cs).length ≤ cs.length := by
  have inner := length_dropBlank_le cs
  have outer := length_dropBlank_le (dropBlank cs).reverse
  simp only [trimBlank, List.length_reverse] at *
  omega

end GatewayQuery.Text
