/-
Any value comes back from its text.

`Proofs/Json/Reading.lean` restores values of a form that is known beforehand.  Here nothing is
known of the value but that it holds no number: a number is written by its digits, and how many of
them are enough to find it again is a matter of rounding, not of reading.

The induction is on the value, and what is read may stand in front of any text, so that an item can
be followed by the rest of its list.  The items of an array are read by the turns that read a typed
list, so nothing new has to be shown of them; the members of an object are read by turns of their
own.
-/
import GatewayQuery.Json.Document
import GatewayQuery.Proofs.Json.Reading

namespace GatewayQuery.Json

mutual

/-- There is no number in the value. -/
def Numberless : Json → Prop
  | .number _ => False
  | .array items => ItemsNumberless items
  | .object members => MembersNumberless members
  | _ => True

def ItemsNumberless : List Json → Prop
  | [] => True
  | item :: rest => item.Numberless ∧ ItemsNumberless rest

def MembersNumberless : List (String × Json) → Prop
  | [] => True
  | (_, value) :: rest => value.Numberless ∧ MembersNumberless rest

end

theorem itemsNumberless_iff {items : List Json} :
    ItemsNumberless items ↔ ∀ item ∈ items, item.Numberless := by
  induction items with
  | nil => simp [ItemsNumberless]
  | cons item rest ih => simp [ItemsNumberless, ih]

theorem membersNumberless_iff {members : List (String × Json)} :
    MembersNumberless members ↔ ∀ member ∈ members, member.2.Numberless := by
  induction members with
  | nil => simp [MembersNumberless]
  | cons member rest ih => simp [MembersNumberless, ih]

namespace Read

variable {cs tail rest text : List Char} {name : String} {item : Json} {items : List Json}
  {members : List (String × Json)}

/-! ### One value -/

/-- Without a number a value begins with a letter, a quote or an opening bracket. -/
theorem opens_numberless {value : Json} (h : value.Numberless) :
    ∃ c cs, value.print.toList = c :: cs ∧ isSpace c = false ∧ c ≠ ']' := by
  cases value with
  | null => exact ⟨'n', ['u', 'l', 'l'], rfl, rfl, by decide⟩
  | bool value => exact restores_bool.opens value
  | number value => exact h.elim
  | string text => exact restores_string.opens text
  | array items =>
    exact ⟨'[', (printItems items).toList ++ [']'], by simp [print], by decide, by decide⟩
  | object members =>
    exact ⟨'\x7b', (printMembers members).toList ++ ['\x7d'], by simp [print], by decide,
      by decide⟩

/-- A value without parts is read by its first character. -/
theorem takes_scalar {c : Char} {found : Json} (hspace : isSpace c = false) (hlist : c ≠ '[')
    (hobject : c ≠ '\x7b')
    (h : ∃ left : Tail cs, scalar c cs = .ok (found, left) ∧ left.val = rest) :
    Takes value (c :: cs) found rest := by
  obtain ⟨left, hfound, hleft⟩ := h
  unfold Takes
  rw [value]
  split
  · next h =>
    rw [dropSpace_cons hspace] at h
    cases h
  · next h =>
    rw [dropSpace_cons hspace] at h
    cases h
    simp only [hlist, hobject, if_false, hfound, Except.map]
    exact ⟨_, rfl, hleft⟩

theorem takes_null (rest : List Char) :
    Takes value (Json.null.print.toList ++ rest) .null rest :=
  takes_scalar (by decide) (by decide) (by decide) ⟨⟨rest, _⟩, rfl, rfl⟩

theorem takes_bool (flag : Bool) (rest : List Char) :
    Takes value ((Json.bool flag).print.toList ++ rest) (.bool flag) rest := by
  cases flag with
  | true => exact takes_scalar (by decide) (by decide) (by decide) ⟨⟨rest, _⟩, rfl, rfl⟩
  | false => exact takes_scalar (by decide) (by decide) (by decide) ⟨⟨rest, _⟩, rfl, rfl⟩

theorem takes_text (text : String) (rest : List Char) :
    Takes value ((Json.string text).print.toList ++ rest) (.string text) rest := by
  obtain ⟨left, hfound, hleft⟩ := stringTail_written text.toList rest
  rw [print, printString_append]
  refine takes_scalar (by decide) (by decide) (by decide) ⟨left.toTail, ?_, hleft⟩
  simp only [scalar, hfound, Except.map, String.ofList_toList]

/-! ### Brackets -/

/-- The items of an array are read like those of a list of values. -/
theorem valueItems_eq (first : Bool) (cs : List Char) :
    valueItems first cs = Read.items value first cs := by
  induction hlength : cs.length using Nat.strongRecOn generalizing first cs with
  | _ length ih =>
    rw [valueItems, Read.items]
    cases turn ']' first cs with
    | error fault => rfl
    | ok found =>
      cases found with
      | closed left => rfl
      | item left =>
        dsimp only
        cases value left.val with
        | error fault => rfl
        | ok found =>
          obtain ⟨item, after⟩ := found
          have hshorter : after.val.length < length := by
            have := left.property
            have := after.property
            omega
          simp only [ih _ hshorter false after.val rfl]
          cases Read.items value false after.val with
          | error fault => rfl
          | ok found => rfl

theorem takes_array (h : Takes (Read.items value true) cs items rest) :
    Takes value ('[' :: cs) (.array items) rest := by
  obtain ⟨_, hfound, hleft⟩ := h
  unfold Takes
  rw [value]
  split
  · next h => cases h
  · next h =>
    cases h
    simp only [if_true, valueItems_eq, hfound]
    exact ⟨_, rfl, hleft⟩

theorem takes_object (h : Takes (valueMembers true) cs members rest) :
    Takes value ('\x7b' :: cs) (.object members) rest := by
  obtain ⟨_, hfound, hleft⟩ := h
  unfold Takes
  rw [value]
  split
  · next h => cases h
  · next h =>
    cases h
    simp only [Char.reduceEq, if_true, if_false, hfound]
    exact ⟨_, rfl, hleft⟩

theorem takes_valueMembers_end {first : Bool} (h : Closes '\x7d' first cs rest) :
    Takes (valueMembers first) cs [] rest := by
  obtain ⟨_, hclosed, hleft⟩ := h
  unfold Takes
  rw [valueMembers]
  simp only [hclosed]
  exact ⟨_, rfl, hleft⟩

theorem takes_valueMembers_step {first : Bool} {left : List Char}
    (hturn : Continues '\x7d' first cs text) (hname : Takes key text name (':' :: left))
    (hitem : Takes value left item tail)
    (hothers : Takes (valueMembers false) tail members rest) :
    Takes (valueMembers first) cs ((name, item) :: members) rest := by
  obtain ⟨_, hturn, rfl⟩ := hturn
  obtain ⟨⟨_, hshorter⟩, hname, rfl⟩ := hname
  obtain ⟨_, hitem, rfl⟩ := hitem
  obtain ⟨_, hothers, hleft⟩ := hothers
  unfold Takes
  rw [valueMembers]
  simp only [hturn, hname, colon_cons, Rest.tail, hitem, hothers]
  exact ⟨_, rfl, hleft⟩

/-- A member, wherever it stands in the object. -/
theorem takes_valueMember {first : Bool}
    (hturn : Continues '\x7d' first cs (memberText (name, item) ++ tail))
    (hitem : ∀ rest, Takes value (item.print.toList ++ rest) item rest)
    (hothers : Takes (valueMembers false) tail members rest) :
    Takes (valueMembers first) cs ((name, item) :: members) rest := by
  rw [memberText, List.append_assoc] at hturn
  exact takes_valueMembers_step hturn (takes_key name _) (hitem tail) hothers

/-! ### Any value -/

mutual

/-- Whatever follows it, a value is taken back from where its text begins. -/
theorem takes_value : ∀ item : Json, item.Numberless → ∀ rest : List Char,
    Takes value (item.print.toList ++ rest) item rest
  | .null, _, rest => takes_null rest
  | .bool flag, _, rest => takes_bool flag rest
  | .string text, _, rest => takes_text text rest
  | .number _, h, _ => h.elim
  | .array [], _, rest => takes_array (takes_items_end (closes_bracket true (by decide)))
  | .array (item :: items), h, rest => by
    obtain ⟨c, cs, htext, hspace, hbracket⟩ := opens_numberless h.1
    have hprinted : (Json.array (item :: items)).print.toList ++ rest =
        '[' :: (item.print.toList ++ (following (items.map (·.print.toList)) ++ ']' :: rest)) := by
      simp [print, toList_printItems]
    rw [hprinted]
    refine takes_array (takes_items_step ?_ (takes_value item h.1 _) (takes_rest items h.2 rest))
    rw [htext]
    exact continues_first hspace hbracket
  | .object [], _, rest => takes_object (takes_valueMembers_end (closes_bracket true (by decide)))
  | .object ((name, item) :: members), h, rest => by
    have hprinted : (Json.object ((name, item) :: members)).print.toList ++ rest =
        '\x7b' :: (memberText (name, item) ++
          (following (members.map memberText) ++ '\x7d' :: rest)) := by
      simp [print, toList_printMembers]
    rw [hprinted]
    have hothers := takes_others members h.2 rest
    refine takes_object (takes_valueMember ?_ (takes_value item h.1) hothers)
    rw [memberText_append]
    exact continues_first (by decide) (by decide)

/-- Items behind their commas, through the closing bracket. -/
theorem takes_rest : ∀ items : List Json, ItemsNumberless items → ∀ rest : List Char,
    Takes (Read.items value false) (following (items.map (·.print.toList)) ++ ']' :: rest) items
      rest
  | [], _, rest => takes_items_end (closes_bracket false (by decide))
  | item :: items, h, rest => by
    obtain ⟨c, cs, htext, hspace, hbracket⟩ := opens_numberless h.1
    refine takes_items_step ?_ (takes_value item h.1 _) (takes_rest items h.2 rest)
    rw [List.map_cons, following_cons, htext, List.cons_append, List.append_assoc]
    exact continues_comma hspace hbracket (by decide)

/-- Members behind their commas, through the closing bracket. -/
theorem takes_others : ∀ members : List (String × Json), MembersNumberless members →
    ∀ rest : List Char,
      Takes (valueMembers false) (following (members.map memberText) ++ '\x7d' :: rest) members rest
  | [], _, rest => takes_valueMembers_end (closes_bracket false (by decide))
  | (name, item) :: members, h, rest => by
    refine takes_valueMember ?_ (takes_value item h.1) (takes_others members h.2 rest)
    rw [List.map_cons, following_cons, List.cons_append, List.append_assoc, memberText_append]
    exact continues_comma (by decide) (by decide) (by decide)

end

end Read

/-- **A value without numbers is what its text holds.** -/
theorem parse_print {value : Json} (h : value.Numberless) : parse value.print = .ok value := by
  have htakes := Read.takes_value value h []
  rw [List.append_nil] at htakes
  obtain ⟨_, hfound, hleft⟩ := htakes
  simp only [parse, Read.whole, hfound, hleft]
  rfl

end GatewayQuery.Json
