/-
What the printer writes the readers take back.

A reader restores a writer when, put at the start of a written value, it finds that value and stops
right behind it, whatever follows.  That is the whole interface between the parts: strings and
truth values are restored outright, lists and records as soon as their items and fields are, and a
text that holds nothing but a written value is read to its end.

Two things have to be known about a written text besides.  It does not start with space, so that
nothing is passed over on the way to it, and it does not start with a closing bracket, which is how
a reader tells the first item of a list from the end of an empty one.
-/
import GatewayQuery.Json.Printer
import GatewayQuery.Json.Typed

namespace GatewayQuery.Json.Read

/-- At the start of the text the scan finds the value, and leaves the rest. -/
def Takes {α : Type} (scan : Reader α) (cs : List Char) (value : α) (rest : List Char) : Prop :=
  ∃ left : Rest cs, scan cs = .ok (value, left) ∧ left.val = rest

/-! ### Strings

The writer decides for each character whether to write it raw or as an escape; the reader undoes
one such decision at a time. -/

section Strings

variable {cs tail rest text : List Char} {c d : Char}

theorem stringTail_quote : Takes stringTail ('"' :: rest) [] rest := by
  unfold Takes
  rw [stringTail]
  exact ⟨_, rfl, rfl⟩

/-- A character written as an escape, however the escape is read. -/
theorem stringTail_escape (hfirst : Takes escape cs c tail)
    (hothers : Takes stringTail tail text rest) :
    Takes stringTail ('\\' :: cs) (c :: text) rest := by
  obtain ⟨_, hfirst, rfl⟩ := hfirst
  obtain ⟨_, hothers, rfl⟩ := hothers
  unfold Takes
  rw [stringTail]
  simp only [hfirst, hothers]
  exact ⟨_, rfl, rfl⟩

/-- A character written as it is. -/
theorem stringTail_raw (hquote : c ≠ '"') (hbackslash : c ≠ '\\') (hcontrol : ¬ c.toNat < 0x20)
    (hothers : Takes stringTail tail text rest) :
    Takes stringTail (c :: tail) (c :: text) rest := by
  obtain ⟨_, hothers, rfl⟩ := hothers
  unfold Takes
  rw [stringTail]
  · simp only [hcontrol, if_false, hothers]
    exact ⟨_, rfl, rfl⟩
  · exact hquote
  · exact hbackslash

/-- A letter after the backslash. -/
theorem escape_short (h : shortEscape? d = some c) : Takes escape (d :: rest) c rest := by
  -- The letter that opens a number is no short escape.
  have hletter : d ≠ 'u' := by
    intro hd
    rw [hd] at h
    cases h
  unfold Takes
  rw [escape]
  · simp only [h]
    exact ⟨_, rfl, rfl⟩
  · exact hletter

theorem hexValue?_digitChar : ∀ n < 16, hexValue? (Nat.digitChar n) = some n := by decide

/-- Two zeros and two digits spell a number below 256. -/
theorem fourHex_digits {n : Nat} (h : n < 256) :
    Takes fourHex ('0' :: '0' :: Nat.digitChar (n / 16) :: Nat.digitChar (n % 16) :: rest) n
      rest := by
  have henough : ¬ Text.byteLength
      ('0' :: '0' :: Nat.digitChar (n / 16) :: Nat.digitChar (n % 16) :: rest) < 4 := by
    have hupper := (Nat.digitChar (n / 16)).utf8Size_pos
    have hlower := (Nat.digitChar (n % 16)).utf8Size_pos
    have hzero := '0'.utf8Size_pos
    simp only [Text.byteLength_cons]
    omega
  have hzero : hexValue? '0' = some 0 := by decide
  have hupper := hexValue?_digitChar (n / 16) (by omega)
  have hlower := hexValue?_digitChar (n % 16) (by omega)
  have hnumber : ((0 * 16 + 0) * 16 + n / 16) * 16 + n % 16 = n := by omega
  unfold Takes
  simp only [fourHex, if_neg henough, hzero, hupper, hlower, hnumber]
  exact ⟨_, rfl, rfl⟩

/-- The number of a control character; it is no surrogate. -/
theorem escape_control (h : c.toNat < 0x20) :
    Takes escape
      ('u' :: '0' :: '0' :: Nat.digitChar (c.toNat / 16) :: Nat.digitChar (c.toNat % 16) :: rest)
      c rest := by
  have hdigits : Takes fourHex _ c.toNat rest := fourHex_digits (by omega)
  obtain ⟨_, hdigits, hleft⟩ := hdigits
  have htrailing : isTrailing c.toNat = false := by simp [isTrailing]; omega
  have hleading : isLeading c.toNat = false := by simp [isLeading]; omega
  unfold Takes
  simp only [escape, unicodeEscape, hdigits, htrailing, hleading, Bool.false_eq_true, if_false,
    Char.ofNat_toNat, within]
  exact ⟨_, rfl, hleft⟩

/-- One character, as the writer puts it. -/
theorem stringTail_escapedChar (hothers : Takes stringTail tail text rest) :
    Takes stringTail (escapedChar c ++ tail) (c :: text) rest := by
  -- Seven characters have a letter of their own; it is the one that the reader knows them by.
  by_cases hshort : c ∈ ['"', '\\', '\x08', '\x0c', '\n', '\r', '\t']
  · simp only [List.mem_cons, List.not_mem_nil, or_false] at hshort
    rcases hshort with rfl | rfl | rfl | rfl | rfl | rfl | rfl <;>
      exact stringTail_escape (escape_short rfl) hothers
  · simp only [List.mem_cons, List.not_mem_nil, or_false, not_or] at hshort
    obtain ⟨hquote, hbackslash, hbackspace, hfeed, hnewline, hreturn, htab⟩ := hshort
    simp only [escapedChar, hquote, hbackslash, hbackspace, hfeed, hnewline, hreturn, htab,
      if_false]
    by_cases hcontrol : c.toNat < 0x20
    · rw [if_pos hcontrol]
      exact stringTail_escape (escape_control hcontrol) hothers
    · rw [if_neg hcontrol]
      exact stringTail_raw hquote hbackslash hcontrol hothers

/-- All the characters of a written string, behind its opening quote. -/
theorem stringTail_written (text rest : List Char) :
    Takes stringTail (text.flatMap escapedChar ++ '"' :: rest) text rest := by
  induction text with
  | nil => exact stringTail_quote
  | cons c text ih =>
    rw [List.flatMap_cons, List.append_assoc]
    exact stringTail_escapedChar ih

theorem printString_append (text : String) (rest : List Char) :
    (printString text).toList ++ rest
      = '"' :: (text.toList.flatMap escapedChar ++ '"' :: rest) := by
  simp [printString]

theorem takes_string (text : String) (rest : List Char) :
    Takes string ((printString text).toList ++ rest) text rest := by
  obtain ⟨_, hfound, hleft⟩ := stringTail_written text.toList rest
  rw [printString_append]
  unfold Takes string
  split
  · next h =>
    obtain rfl := (List.cons.inj h).2
    simp only [hfound, String.ofList_toList]
    exact ⟨_, rfl, hleft⟩
  · next h => exact absurd rfl (h _)

theorem takes_key (text : String) (rest : List Char) :
    Takes key ((printString text).toList ++ rest) text rest := by
  obtain ⟨_, hfound, hleft⟩ := stringTail_written text.toList rest
  rw [printString_append]
  unfold Takes key
  split
  · next h => cases h
  · next h =>
    obtain rfl := (List.cons.inj h).2
    simp only [hfound, String.ofList_toList]
    exact ⟨_, rfl, hleft⟩
  · next h => exact absurd rfl (h _)

end Strings

/-! ### Values

From here on a reader stands against the writer whose texts it reads. -/

/-- The reader takes back, wherever it stands, what the writer makes of a value. -/
structure Restores {α : Type} (reader : Reader α) (write : α → Json) : Prop where
  /-- The written text begins neither with space nor with the end of a list. -/
  opens (value : α) :
    ∃ c cs, (write value).print.toList = c :: cs ∧ isSpace c = false ∧ c ≠ ']'
  takes (value : α) (rest : List Char) :
    Takes reader ((write value).print.toList ++ rest) value rest

theorem restores_string : Restores string Json.string where
  opens text :=
    ⟨'"', text.toList.flatMap escapedChar ++ ['"'], by simp [print, printString], by decide,
      by decide⟩
  takes := takes_string

theorem restores_bool : Restores bool Json.bool where
  opens value := by
    cases value with
    | true => exact ⟨'t', ['r', 'u', 'e'], rfl, rfl, by decide⟩
    | false => exact ⟨'f', ['a', 'l', 's', 'e'], rfl, rfl, by decide⟩
  takes value rest := by
    unfold Takes bool
    cases value with
    | true =>
      split
      · next h =>
        cases h
        exact ⟨_, rfl, rfl⟩
      · next h => cases h
      · next h _ => exact absurd rfl (h _)
    | false =>
      split
      · next h => cases h
      · next h =>
        cases h
        exact ⟨_, rfl, rfl⟩
      · next h => exact absurd rfl (h _)

/-- A choice among names is restored when each name leads back to its value. -/
theorem restores_choice {α : Type} {name : α → String} {named? : String → Option α}
    (hnamed : ∀ value, named? (name value) = some value) :
    Restores (choice named?) (fun value => .string (name value)) where
  opens value := restores_string.opens (name value)
  takes value rest := by
    obtain ⟨_, hfound, hleft⟩ := stringTail_written (name value).toList rest
    show Takes (choice named?) ((printString (name value)).toList ++ rest) value rest
    rw [printString_append]
    unfold Takes choice
    split
    · next h => cases h
    · next h =>
      obtain rfl := (List.cons.inj h).2
      simp only [hfound, String.ofList_toList, hnamed]
      exact ⟨_, rfl, hleft⟩
    · next h => cases h
    · next h _ => exact absurd rfl (h _)

/-! ### Brackets

A list and an object are read by the same turns: to the closing bracket, or to the next item behind
its comma. -/

/-- The next item of a bracket begins where the text does. -/
def Continues (close : Char) (first : Bool) (cs text : List Char) : Prop :=
  ∃ left : Tail cs, turn close first cs = .ok (.item left) ∧ left.val = text

/-- The bracket ends here. -/
def Closes (close : Char) (first : Bool) (cs rest : List Char) : Prop :=
  ∃ left : Rest cs, turn close first cs = .ok (.closed left) ∧ left.val = rest

section Brackets

variable {close c : Char} {cs rest : List Char}

theorem dropSpace_cons (h : isSpace c = false) (cs : List Char) :
    dropSpace (c :: cs) = c :: cs := by
  simp [dropSpace, h]

theorem closes_bracket (first : Bool) (hclose : isSpace close = false) :
    Closes close first (close :: rest) rest := by
  unfold Closes turn
  split
  · next h =>
    rw [dropSpace_cons hclose] at h
    cases h
  · next h =>
    rw [dropSpace_cons hclose] at h
    cases h
    simp only [if_true]
    exact ⟨_, rfl, rfl⟩

theorem continues_first (hspace : isSpace c = false) (hclose : c ≠ close) :
    Continues close true (c :: cs) (c :: cs) := by
  unfold Continues turn
  split
  · next h =>
    rw [dropSpace_cons hspace] at h
    cases h
  · next h =>
    rw [dropSpace_cons hspace] at h
    cases h
    simp only [hclose, if_false, if_true]
    exact ⟨_, rfl, rfl⟩

theorem continues_comma (hspace : isSpace c = false) (hclose : c ≠ close) (hcomma : close ≠ ',') :
    Continues close false (',' :: c :: cs) (c :: cs) := by
  unfold Continues turn
  split
  · next h => cases h
  · next h =>
    cases h
    simp only [hcomma.symm, if_false, if_true, dropSpace_cons hspace, hclose, Bool.false_eq_true]
    exact ⟨_, rfl, rfl⟩

/-- The texts that follow the first one in a bracket, each behind a comma. -/
def following (texts : List (List Char)) : List Char := texts.flatMap (',' :: ·)

theorem following_cons (text : List Char) (others : List (List Char)) :
    following (text :: others) = ',' :: (text ++ following others) := rfl

end Brackets

/-! ### Lists -/

section Lists

variable {α : Type} {item : Reader α} {write : α → Json}

theorem toList_printItems (item : Json) (others : List Json) :
    (printItems (item :: others)).toList
      = item.print.toList ++ following (others.map (·.print.toList)) := by
  induction others generalizing item with
  | nil => simp [printItems, following]
  | cons next others ih => simp [printItems, ih, following_cons]

theorem takes_items_end {first : Bool} {cs rest : List Char} (h : Closes ']' first cs rest) :
    Takes (items item first) cs [] rest := by
  obtain ⟨_, hclosed, hleft⟩ := h
  unfold Takes
  rw [items]
  simp only [hclosed]
  exact ⟨_, rfl, hleft⟩

theorem takes_items_step {first : Bool} {cs text tail rest : List Char} {value : α}
    {values : List α} (hturn : Continues ']' first cs text) (hvalue : Takes item text value tail)
    (hothers : Takes (items item false) tail values rest) :
    Takes (items item first) cs (value :: values) rest := by
  obtain ⟨_, hturn, rfl⟩ := hturn
  obtain ⟨_, hvalue, rfl⟩ := hvalue
  obtain ⟨_, hothers, hleft⟩ := hothers
  unfold Takes
  rw [items]
  simp only [hturn, hvalue, hothers]
  exact ⟨_, rfl, hleft⟩

/-- Items behind their commas, through the closing bracket. -/
theorem takes_items_following (h : Restores item write) (values : List α) (rest : List Char) :
    Takes (items item false)
      (following ((values.map write).map (·.print.toList)) ++ ']' :: rest) values rest := by
  induction values with
  | nil => exact takes_items_end (closes_bracket false (by decide))
  | cons value values ih =>
    obtain ⟨c, cs, htext, hspace, hbracket⟩ := h.opens value
    -- What follows the item is the rest of the list, which the induction hypothesis reads.
    refine takes_items_step ?_ (h.takes value _) ih
    rw [List.map_cons, List.map_cons, following_cons, htext, List.cons_append, List.append_assoc]
    exact continues_comma hspace hbracket (by decide)

theorem takes_items (h : Restores item write) (values : List α) (rest : List Char) :
    Takes (items item true) ((printItems (values.map write)).toList ++ ']' :: rest) values
      rest := by
  cases values with
  | nil => exact takes_items_end (closes_bracket true (by decide))
  | cons value values =>
    obtain ⟨c, cs, htext, hspace, hbracket⟩ := h.opens value
    rw [List.map_cons, toList_printItems, List.append_assoc]
    refine takes_items_step ?_ (h.takes value _) (takes_items_following h values rest)
    rw [htext]
    exact continues_first hspace hbracket

/-- A list is restored when its items are. -/
theorem Restores.list (h : Restores item write) :
    Restores (Read.list item) (fun values => .array (values.map write)) where
  opens values :=
    ⟨'[', (printItems (values.map write)).toList ++ [']'], by simp [print], by decide, by decide⟩
  takes values rest := by
    obtain ⟨_, hfound, hleft⟩ := takes_items h values rest
    have htext : (print (.array (values.map write))).toList ++ rest
        = '[' :: ((printItems (values.map write)).toList ++ ']' :: rest) := by simp [print]
    rw [htext]
    unfold Takes Read.list
    split
    · next h =>
      obtain rfl := (List.cons.inj h).2
      simp only [hfound, within]
      exact ⟨_, rfl, hleft⟩
    · next h => exact absurd rfl (h _)

end Lists

/-! ### Records -/

/-- Read one after the other, the members turn one part of a record into another: each has a field
of its own that is still open and takes back the value written. -/
inductive Fills {σ : Type} (slots : List (Slot σ)) : σ → List (String × Json) → σ → Prop where
  | done (part : σ) : Fills slots part [] part
  | next {part next last : σ} {name : String} {value : Json} {members : List (String × Json)}
      (slot : Slot σ) (hknown : slots.find? (fun slot => slot.key == name) = some slot)
      (hopen : slot.isFilled part = false)
      (hvalue : ∀ rest, Takes (slot.fill part) (value.print.toList ++ rest) next rest)
      (hothers : Fills slots next members last) :
      Fills slots part ((name, value) :: members) last

section Records

variable {σ α : Type} {slots : List (Slot σ)} {slot : Slot σ} {part next last : σ} {name : String}
  {value : Json} {cs tail rest : List Char}

/-- A member as it stands in an object. -/
def memberText (member : String × Json) : List Char :=
  (printString member.1).toList ++ ':' :: member.2.print.toList

theorem memberText_append (member : String × Json) (rest : List Char) :
    memberText member ++ rest
      = '"' :: (member.1.toList.flatMap escapedChar
          ++ '"' :: ':' :: (member.2.print.toList ++ rest)) := by
  simp [memberText, printString]

theorem toList_printMembers (member : String × Json) (others : List (String × Json)) :
    (printMembers (member :: others)).toList
      = memberText member ++ following (others.map memberText) := by
  obtain ⟨name, value⟩ := member
  induction others generalizing name value with
  | nil => simp [printMembers, memberText, following]
  | cons next others ih =>
    obtain ⟨other, held⟩ := next
    simp [printMembers, ih, memberText, following_cons]

theorem colon_cons (cs : List Char) : colon (':' :: cs) = .ok (Rest.tail ':' cs) := by
  unfold colon
  split
  · next h => cases h
  · next h =>
    cases h
    rfl
  · next h => exact absurd rfl (h _)

theorem takes_memberValue (hknown : slots.find? (fun slot => slot.key == name) = some slot)
    (hopen : slot.isFilled part = false) (hvalue : Takes (slot.fill part) cs next rest) :
    Takes (memberValue slots name part) (':' :: cs) next rest := by
  obtain ⟨_, hfound, hleft⟩ := hvalue
  unfold Takes memberValue
  simp only [hknown, hopen, colon_cons, Rest.tail, Bool.false_eq_true, if_false, hfound, within]
  exact ⟨_, rfl, hleft⟩

theorem takes_members_end {first : Bool} (h : Closes '\x7d' first cs rest) :
    Takes (members slots first part) cs part rest := by
  obtain ⟨_, hclosed, hleft⟩ := h
  unfold Takes
  rw [members]
  simp only [hclosed]
  exact ⟨_, rfl, hleft⟩

theorem takes_members_step {first : Bool} {text left : List Char}
    (hturn : Continues '\x7d' first cs text) (hname : Takes key text name left)
    (hvalue : Takes (memberValue slots name part) left next tail)
    (hothers : Takes (members slots false next) tail last rest) :
    Takes (members slots first part) cs last rest := by
  obtain ⟨_, hturn, rfl⟩ := hturn
  obtain ⟨_, hname, rfl⟩ := hname
  obtain ⟨_, hvalue, rfl⟩ := hvalue
  obtain ⟨_, hothers, hleft⟩ := hothers
  unfold Takes
  rw [members]
  simp only [hturn, hname, hvalue, hothers, within]
  exact ⟨_, rfl, hleft⟩

/-- A member whose field is open, wherever it stands in the object. -/
theorem takes_member {first : Bool}
    (hturn : Continues '\x7d' first cs (memberText (name, value) ++ tail))
    (hknown : slots.find? (fun slot => slot.key == name) = some slot)
    (hopen : slot.isFilled part = false)
    (hvalue : ∀ rest, Takes (slot.fill part) (value.print.toList ++ rest) next rest)
    (hothers : Takes (members slots false next) tail last rest) :
    Takes (members slots first part) cs last rest := by
  rw [memberText, List.append_assoc] at hturn
  exact takes_members_step hturn (takes_key name _) (takes_memberValue hknown hopen (hvalue tail))
    hothers

variable {written : List (String × Json)}

/-- Members behind their commas, through the closing bracket. -/
theorem takes_members_following (h : Fills slots part written last) (rest : List Char) :
    Takes (members slots false part) (following (written.map memberText) ++ '\x7d' :: rest)
      last rest := by
  induction h with
  | done part => exact takes_members_end (closes_bracket false (by decide))
  | next slot hknown hopen hvalue hothers ih =>
    refine takes_member ?_ hknown hopen hvalue ih
    rw [List.map_cons, following_cons, List.cons_append, List.append_assoc, memberText_append]
    exact continues_comma (by decide) (by decide) (by decide)

theorem takes_members (h : Fills slots part written last) (rest : List Char) :
    Takes (members slots true part) ((printMembers written).toList ++ '\x7d' :: rest)
      last rest := by
  cases h with
  | done part => exact takes_members_end (closes_bracket true (by decide))
  | next slot hknown hopen hvalue hothers =>
    refine takes_member ?_ hknown hopen hvalue (takes_members_following hothers rest)
    rw [toList_printMembers, List.append_assoc, memberText_append]
    exact continues_first (by decide) (by decide)

/-- A record is restored when its members fill an empty part up to one that makes the value. -/
theorem restores_record {empty : σ} {finish : σ → Option α} {write : α → List (String × Json)}
    (h : ∀ value, ∃ part, Fills slots empty (write value) part ∧ finish part = some value) :
    Restores (record slots empty finish) (fun value => .object (write value)) where
  opens value :=
    ⟨'\x7b', (printMembers (write value)).toList ++ ['\x7d'], by simp [print], by decide,
      by decide⟩
  takes value rest := by
    obtain ⟨part, hfills, hcomplete⟩ := h value
    obtain ⟨_, hfound, hleft⟩ := takes_members hfills rest
    have htext : (print (.object (write value))).toList ++ rest
        = '\x7b' :: ((printMembers (write value)).toList ++ '\x7d' :: rest) := by simp [print]
    rw [htext]
    unfold Takes record
    split
    · next h => cases h
    · next h =>
      obtain rfl := (List.cons.inj h).2
      simp only [hfound, within, hcomplete]
      exact ⟨_, rfl, hleft⟩
    · next h => exact absurd rfl (h _)

end Records

/-- **A text that holds nothing but a written value is read as that value.** -/
theorem whole_print {α : Type} {reader : Reader α} {write : α → Json} (h : Restores reader write)
    (value : α) : whole reader (write value).print = .ok value := by
  have htakes := h.takes value []
  rw [List.append_nil] at htakes
  obtain ⟨_, hfound, hleft⟩ := htakes
  simp only [whole, hfound, hleft]
  rfl

end GatewayQuery.Json.Read
