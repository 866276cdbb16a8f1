/-
What a gateway can make of the lists in filters.

A choice is written between parentheses.  An item with a comma or a parenthesis in it gets
quotes around it, and that is all: a quote inside an item is written as it is.  So quotes
mean two things, and a gateway that takes the first one of an item for an opening and the
next for the closing one is misled by them.  The items that come through are those without
quotes, and those with nothing reserved in them that do not begin with a quote.  Lists of
such items are told apart, whatever else they hold.

In an array literal nothing is quoted at all.  There two lists are written the same exactly
if they have the same pieces between commas.
-/
import GatewayQuery.Text.Split
import GatewayQuery.Request.Filter

namespace GatewayQuery

theorem Filter.parameter_eq_iff {column operator value other : String} :
    [parameter column operator value] = [parameter column operator other] ↔ value = other := by
  simp [parameter, String.append_right_inj]

namespace Operand

/-! ### Reading a choice -/

/-- A text begins with an item: either with one in quotes, or with a bare one that goes up to a
reserved character or to the end. -/
inductive ReadsItem (text : List Char) (item : String) (behind : List Char) : Prop
  | quoted (htext : text = '"' :: (item.toList ++ '"' :: behind)) (hplain : '"' ∉ item.toList)
  | bare (htext : text = item.toList ++ behind) (hfirst : item.toList.head? ≠ some '"')
      (hplain : ∀ c ∈ item.toList, isReserved c = false)
      (hends : ∀ c ∈ behind.head?, isReserved c = true)

/-- A text is a list of items with commas between them, up to a closing parenthesis. -/
inductive ReadsItems : List Char → List String → Prop
  | last {text : List Char} {item : String} (hitem : ReadsItem text item [')']) :
      ReadsItems text [item]
  | more {text rest : List Char} {item : String} {items : List String}
      (hitem : ReadsItem text item (',' :: rest)) (hrest : ReadsItems rest items) :
      ReadsItems text (item :: items)

/-- An operand is read as a choice among some items. -/
def ReadsChoice (operand : String) (items : List String) : Prop :=
  ∃ body, operand.toList = '(' :: body ∧ ReadsItems body items

/-- A text that begins with a bare item does not begin with a quote. -/
theorem head?_of_bare {item : String} {behind : List Char}
    (hfirst : item.toList.head? ≠ some '"') (hends : ∀ c ∈ behind.head?, isReserved c = true)
    (rest : List Char) : item.toList ++ behind ≠ '"' :: rest := by
  intro h
  cases hitem : item.toList with
  | nil =>
    rw [hitem, List.nil_append] at h
    rw [h] at hends
    exact absurd (hends '"' rfl) (by decide)
  | cons c cs =>
    rw [hitem, List.cons_append] at h
    rw [hitem, (List.cons.inj h).1] at hfirst
    exact hfirst rfl

/-- Two texts that both go on to the first character without a property are the same. -/
theorem eq_of_append_eq {p : Char → Bool} {text other behind after : List Char}
    (htext : ∀ c ∈ text, p c = true) (hbehind : ∀ c ∈ behind.head?, p c = false)
    (hother : ∀ c ∈ other, p c = true) (hafter : ∀ c ∈ after.head?, p c = false)
    (h : text ++ behind = other ++ after) : text = other ∧ behind = after := by
  have hends : ∀ rest : List Char, (∀ c ∈ rest.head?, p c = false) → rest.takeWhile p = [] := by
    intro rest hrest
    cases rest with
    | nil => rfl
    | cons c cs => exact List.takeWhile_cons_of_neg (by simp [hrest c rfl])
  have hsame := congrArg (List.takeWhile p) h
  rw [List.takeWhile_append_of_pos htext, List.takeWhile_append_of_pos hother, hends _ hbehind,
    hends _ hafter, List.append_nil, List.append_nil] at hsame
  rw [hsame] at h
  exact ⟨hsame, List.append_cancel_left h⟩

theorem bne_of_not_mem {d : Char} {text : List Char} (h : d ∉ text) :
    ∀ c ∈ text, (c != d) = true := by
  intro c hc
  rw [bne_iff_ne]
  rintro rfl
  exact h hc

/-- A text begins with one item at most. -/
theorem ReadsItem.unique {text behind after : List Char} {item other : String}
    (h : ReadsItem text item behind) (hother : ReadsItem text other after) :
    item = other ∧ behind = after := by
  cases h with
  | quoted htext hplain =>
    cases hother with
    | quoted hotherText hotherPlain =>
      obtain ⟨hitem, hbehind⟩ := eq_of_append_eq (bne_of_not_mem hplain) (by rintro _ ⟨rfl⟩; rfl)
        (bne_of_not_mem hotherPlain) (by rintro _ ⟨rfl⟩; rfl)
        (List.cons.inj (htext.symm.trans hotherText)).2
      exact ⟨String.toList_inj.mp hitem, (List.cons.inj hbehind).2⟩
    | bare hotherText hfirst hotherPlain hends =>
      exact absurd (hotherText.symm.trans htext) (head?_of_bare hfirst hends _)
  | bare htext hfirst hplain hends =>
    cases hother with
    | quoted hotherText hotherPlain =>
      exact absurd (htext.symm.trans hotherText) (head?_of_bare hfirst hends _)
    | bare hotherText hotherFirst hotherPlain hotherEnds =>
      obtain ⟨hitem, hbehind⟩ := eq_of_append_eq
        (fun c hc => congrArg not (hplain c hc)) (fun c hc => congrArg not (hends c hc))
        (fun c hc => congrArg not (hotherPlain c hc)) (fun c hc => congrArg not (hotherEnds c hc))
        (htext.symm.trans hotherText)
      exact ⟨String.toList_inj.mp hitem, hbehind⟩

/-- A text is read as one list at most. -/
theorem ReadsItems.unique {text : List Char} {items others : List String}
    (h : ReadsItems text items) (hothers : ReadsItems text others) : items = others := by
  induction h generalizing others with
  | last hitem =>
    cases hothers with
    | last hother => rw [(hitem.unique hother).1]
    | more hother hrest => exact absurd (hitem.unique hother).2 (by simp)
  | more hitem hrest ih =>
    cases hothers with
    | last hother => exact absurd (hitem.unique hother).2 (by simp)
    | more hother hotherRest =>
      obtain ⟨rfl, hbehind⟩ := hitem.unique hother
      obtain rfl := (List.cons.inj hbehind).2
      rw [ih hotherRest]

theorem ReadsChoice.unique {operand : String} {items others : List String}
    (h : ReadsChoice operand items) (hothers : ReadsChoice operand others) : items = others := by
  obtain ⟨body, hbody, hitems⟩ := h
  obtain ⟨otherBody, hotherBody, hothers⟩ := hothers
  obtain rfl := (List.cons.inj (hbody.symm.trans hotherBody)).2
  exact hitems.unique hothers

/-! ### Items that come through -/

/-- No quote of the item can be taken for one around it. -/
def Legible (item : String) : Prop :=
  '"' ∉ item.toList ∨ item.toList.head? ≠ some '"' ∧ item.toList.any isReserved = false

instance (item : String) : Decidable (Legible item) :=
  inferInstanceAs (Decidable (_ ∨ _ ∧ _))

theorem ReadsItem.legible {text behind : List Char} {item : String}
    (h : ReadsItem text item behind) : Legible item := by
  cases h with
  | quoted htext hplain => exact .inl hplain
  | bare htext hfirst hplain hends =>
    refine .inr ⟨hfirst, List.any_eq_false.mpr ?_⟩
    intro c hc
    rw [hplain c hc]
    exact Bool.false_ne_true

theorem ReadsItems.legible {text : List Char} {items : List String} (h : ReadsItems text items) :
    ∀ item ∈ items, Legible item := by
  induction h with
  | last hitem =>
    intro item hmem
    rw [List.mem_singleton.mp hmem]
    exact hitem.legible
  | more hitem hrest ih =>
    intro item hmem
    rcases List.mem_cons.mp hmem with rfl | hmem
    · exact hitem.legible
    · exact ih item hmem

/-- A legible item is read as it was written. -/
theorem Legible.readsItem {item : String} (h : Legible item) {behind : List Char}
    (hends : ∀ c ∈ behind.head?, isReserved c = true) :
    ReadsItem ((quoteReserved item).toList ++ behind) item behind := by
  unfold quoteReserved
  by_cases hreserved : item.toList.any isReserved = true
  · rw [if_pos hreserved]
    have hplain : '"' ∉ item.toList := by
      rcases h with hplain | ⟨-, hbare⟩
      · exact hplain
      · rw [hbare] at hreserved
        cases hreserved
    refine .quoted ?_ hplain
    simp
  · rw [if_neg hreserved]
    have hbare : ∀ c ∈ item.toList, isReserved c = false := by simpa using hreserved
    have hfirst : item.toList.head? ≠ some '"' := by
      rcases h with hplain | ⟨hfirst, -⟩
      · intro hhead
        exact hplain (List.mem_of_head? hhead)
      · exact hfirst
    exact .bare rfl hfirst hbare hends

theorem readsItems_of_legible {items : List String} (hne : items ≠ [])
    (h : ∀ item ∈ items, Legible item) :
    ReadsItems ([','].intercalate (items.map fun item => (quoteReserved item).toList) ++ [')'])
      items := by
  induction items with
  | nil => exact absurd rfl hne
  | cons item rest ih =>
    have hitem := h item List.mem_cons_self
    cases rest with
    | nil =>
      rw [List.map_cons, List.map_nil, List.intercalate_singleton]
      exact .last (hitem.readsItem (by rintro _ ⟨rfl⟩; decide))
    | cons next more =>
      have hrest := ih (by simp) fun item hmem => h item (List.mem_cons_of_mem _ hmem)
      rw [List.map_cons, List.map_cons, List.intercalate_cons_cons, List.append_assoc,
        List.append_assoc]
      exact .more (hitem.readsItem (by rintro _ ⟨rfl⟩; decide)) hrest

theorem toList_printChoice (items : List String) :
    (printChoice (items.map .text)).toList =
      '(' :: ([','].intercalate (items.map fun item => (quoteReserved item).toList) ++ [')']) := by
  simp [printChoice, print, Function.comp_def]

/-- A choice is read as the items that were passed exactly if all of them are legible. -/
theorem readsChoice_print_iff {items : List String} (hne : items ≠ []) :
    ReadsChoice (printChoice (items.map .text)) items ↔ ∀ item ∈ items, Legible item := by
  constructor
  · intro h
    obtain ⟨body, -, hitems⟩ := h
    exact hitems.legible
  · intro h
    exact ⟨_, toList_printChoice items, readsItems_of_legible hne h⟩

end Operand

/-- **Which choices a gateway recovers.**  The items are read back exactly if all of them are
legible, so two lists of such items never make the same parameter. -/
theorem Filter.among_legible (column : String) {items : List String} (hitems : items ≠ []) :
    (Operand.ReadsChoice (Operand.printChoice (items.map .text)) items ↔
        ∀ item ∈ items, Operand.Legible item) ∧
      ∀ others : List String, others ≠ [] → (∀ item ∈ items ++ others, Operand.Legible item) →
        (Filter.among column (items.map .text)).parameters =
          (Filter.among column (others.map .text)).parameters → items = others := by
  refine ⟨Operand.readsChoice_print_iff hitems, ?_⟩
  intro others hothers hlegible hsame
  have htext := parameter_eq_iff.mp hsame
  have hread := (Operand.readsChoice_print_iff hitems).mpr fun item hmem =>
    hlegible item (List.mem_append_left _ hmem)
  have hotherRead := (Operand.readsChoice_print_iff hothers).mpr fun item hmem =>
    hlegible item (List.mem_append_right _ hmem)
  rw [htext] at hread
  exact hread.unique hotherRead

/-- A quote at the start of one item and one at the end of the next are taken for quotes around
both. -/
theorem Filter.among_legible_quotes :
    Operand.ReadsChoice (Operand.printChoice (["a,b"].map .text)) ["a,b"] ∧
      ¬Operand.ReadsChoice (Operand.printChoice (["\"a", "b\""].map .text)) ["\"a", "b\""] ∧
      (Filter.among "name" (["a,b"].map .text)).parameters =
        (Filter.among "name" (["\"a", "b\""].map .text)).parameters ∧
      (Filter.among "name" (["a,b"].map .text)).parameters ≠
        (Filter.among "name" (["a", "b"].map .text)).parameters := by
  have hcomma := among_legible "name" (List.cons_ne_nil "a,b" [])
  have hquotes := among_legible "name" (List.cons_ne_nil "\"a" ["b\""])
  refine ⟨hcomma.1.mpr (by decide), ?_, rfl, ?_⟩
  · intro hread
    exact absurd (hquotes.1.mp hread) (by decide)
  · intro hsame
    exact absurd (hcomma.2 ["a", "b"] (by simp) (by decide) hsame) (by decide)

/-! ### Array literals -/

/-- What stands between the commas of an array literal, and before the first and behind the last. -/
def Operand.pieces (items : List String) : List (List Char) :=
  items.flatMap fun item => Text.split ',' item.toList

theorem Operand.arrayLiteral_eq_iff {items others : List String} (hitems : items ≠ [])
    (hothers : others ≠ []) :
    arrayLiteral items = arrayLiteral others ↔ pieces items = pieces others := by
  have hpieces : ∀ items : List String,
      pieces items = (items.map String.toList).flatMap (Text.split ',') := by
    intro items
    rw [pieces, List.flatMap_map]
  rw [hpieces items, hpieces others, ← Text.intercalate_eq_iff ',' (by simpa using hitems)
    (by simpa using hothers)]
  simp only [arrayLiteral, String.append_right_inj, String.append_left_inj]
  rw [← String.toList_inj, String.toList_intercalate, String.toList_intercalate]
  rfl

/-- Items without commas are the pieces. -/
theorem Operand.pieces_of_not_mem {items : List String} (h : ∀ item ∈ items, ',' ∉ item.toList) :
    pieces items = items.map String.toList := by
  induction items with
  | nil => rfl
  | cons item rest ih =>
    have hrest := ih fun item hmem => h item (List.mem_cons_of_mem _ hmem)
    rw [pieces] at hrest
    rw [pieces, List.flatMap_cons, Text.split_of_not_mem (h item List.mem_cons_self), hrest]
    rfl

/-- **Which lists make the same array literal.**  Those with the same pieces between commas, and
where no item has a comma only the same list. -/
theorem Filter.array_parameters_eq_iff (column : String) {items others : List String}
    (hitems : items ≠ []) (hothers : others ≠ []) :
    (∀ containment, (Filter.contain containment column (.array (items.map .string))).parameters =
        (Filter.contain containment column (.array (others.map .string))).parameters ↔
          Operand.pieces items = Operand.pieces others) ∧
      (∀ letters quantifier, (Filter.likeEach letters quantifier column items).parameters =
        (Filter.likeEach letters quantifier column others).parameters ↔
          Operand.pieces items = Operand.pieces others) ∧
      ((∀ item ∈ items ++ others, ',' ∉ item.toList) →
        (Operand.pieces items = Operand.pieces others ↔ items = others)) := by
  have hliteral := Operand.arrayLiteral_eq_iff hitems hothers
  refine ⟨?_, ?_, ?_⟩
  · intro containment
    have htext : ∀ items : List String,
        Operand.printContainer (.array (items.map .string)) = Operand.arrayLiteral items := by
      intro items
      simp [Operand.printContainer, Operand.printJson, Function.comp_def]
    rw [parameters, parameters, parameter_eq_iff, htext, htext, hliteral]
  · intro letters quantifier
    rw [parameters, parameters, parameter_eq_iff, hliteral]
  · intro hplain
    rw [Operand.pieces_of_not_mem fun item hmem => hplain item (List.mem_append_left _ hmem),
      Operand.pieces_of_not_mem fun item hmem => hplain item (List.mem_append_right _ hmem)]
    exact List.map_inj_right fun item other => String.toList_inj.mp

/-- One item with a comma and two items make the same filter. -/
theorem Filter.comma_lost_in_array :
    (Filter.contain .contains "tags" (.array (["a,b"].map .string))).parameters =
        (Filter.contain .contains "tags" (.array (["a", "b"].map .string))).parameters ∧
      (Filter.likeEach .sensitive .any "name" ["a,b"]).parameters =
        (Filter.likeEach .sensitive .any "name" ["a", "b"]).parameters ∧
      (Filter.contain .contains "tags" (.array (["a", "b"].map .string))).parameters ≠
        (Filter.contain .contains "tags" (.array (["ab"].map .string))).parameters := by
  have hlost := array_parameters_eq_iff "tags" (List.cons_ne_nil "a,b" [])
    (List.cons_ne_nil "a" ["b"])
  have hlostPattern := array_parameters_eq_iff "name" (List.cons_ne_nil "a,b" [])
    (List.cons_ne_nil "a" ["b"])
  have hkept := array_parameters_eq_iff "tags" (List.cons_ne_nil "a" ["b"])
    (List.cons_ne_nil "ab" [])
  refine ⟨(hlost.1 .contains).mpr rfl, (hlostPattern.2.1 .sensitive .any).mpr rfl, ?_⟩
  intro hsame
  have hpieces := (hkept.1 .contains).mp hsame
  exact absurd ((hkept.2.2 (by decide)).mp hpieces) (by decide)

end GatewayQuery
