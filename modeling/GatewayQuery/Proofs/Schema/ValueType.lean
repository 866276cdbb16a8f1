/-
What the names of database types mean.

A name is trimmed, looked up among the enum types, taken apart if it is one of an array, and looked
up among the scalars.  The two notations for arrays are not on a par in this: brackets are undone
before an underscore, so the underscore of a name that ends in brackets is reached only when these
are gone.  It makes no difference in the end, as long as no enum type has such a name: both put an
array around what the rest of the name means, whatever the rest is.  For brackets that is read off
one step; for an underscore the induction is on the length of the name.
-/
import GatewayQuery.Proofs.Text.Blank
import GatewayQuery.Schema.ValueType
import Mathlib.Data.List.Induction

namespace GatewayQuery.Schema

/-! ### The three cases -/

theorem valueTypeOf_enum {schema : Schema} {name : List Char} {type : EnumType}
    (h : schema.enum? (String.ofList (Text.trimBlank name)) = some type) :
    schema.valueTypeOf name = .enumeration type.labels := by
  rw [valueTypeOf, h]

theorem valueTypeOf_element {schema : Schema} {name element : List Char}
    (hnone : schema.enum? (String.ofList (Text.trimBlank name)) = none)
    (h : elementName? (Text.trimBlank name) = some element) :
    schema.valueTypeOf name = .array (schema.valueTypeOf element) := by
  rw [valueTypeOf]
  simp only [hnone]
  split
  · rename_i found hfound
    rw [Option.some.inj (hfound.symm.trans h)]
  · rename_i hfound
    cases hfound.symm.trans h

theorem valueTypeOf_scalar {schema : Schema} {name : List Char}
    (hnone : schema.enum? (String.ofList (Text.trimBlank name)) = none)
    (h : elementName? (Text.trimBlank name) = none) :
    schema.valueTypeOf name =
      .ofScalar (String.ofList ((Text.trimBlank name).map Char.toLower)) := by
  rw [valueTypeOf]
  simp only [hnone]
  split
  · rename_i found hfound
    cases hfound.symm.trans h
  · rfl

theorem valueTypeOf_congr {schema twin : Schema} (h : schema.enums = twin.enums)
    (name : List Char) : schema.valueTypeOf name = twin.valueTypeOf name := by
  have henum : ∀ text, schema.enum? text = twin.enum? text := by
    intro text
    unfold enum?
    rw [h]
  fun_induction valueTypeOf schema name with
  | case1 name type htype => rw [valueTypeOf_enum (henum _ ▸ htype)]
  | case2 name hnone element helement hlt ih =>
    rw [valueTypeOf_element (henum _ ▸ hnone) helement, ih]
  | case3 name hnone helement => rw [valueTypeOf_scalar (henum _ ▸ hnone) helement]

/-- Of a schema only the enum types count for what a database type is. -/
theorem valueType_congr {schema twin : Schema} (h : schema.enums = twin.enums) :
    schema.valueType = twin.valueType := by
  funext dataType
  exact valueTypeOf_congr h dataType.toList

/-- Blanks around a name do not count. -/
theorem valueTypeOf_of_trimBlank {name other : List Char}
    (h : Text.trimBlank name = Text.trimBlank other) (schema : Schema) :
    schema.valueTypeOf name = schema.valueTypeOf other := by
  cases henum : schema.enum? (String.ofList (Text.trimBlank name)) with
  | some type => exact (valueTypeOf_enum henum).trans (valueTypeOf_enum (h ▸ henum)).symm
  | none =>
    cases helement : elementName? (Text.trimBlank name) with
    | some element =>
      exact (valueTypeOf_element henum helement).trans
        (valueTypeOf_element (h ▸ henum) (h ▸ helement)).symm
    | none =>
      rw [valueTypeOf_scalar henum helement, valueTypeOf_scalar (h ▸ henum) (h ▸ helement), h]

/-! ### Names of arrays -/

theorem elementName?_brackets (name : List Char) :
    elementName? (name ++ ['[', ']']) = some name := by
  have hreverse : (name ++ ['[', ']']).reverse = ']' :: '[' :: name.reverse := by simp
  unfold elementName?
  split
  · next rest hrest =>
    rw [hreverse] at hrest
    rw [← (List.cons.inj (List.cons.inj hrest).2).2, List.reverse_reverse]
  · next hnone => exact absurd hreverse (hnone _)

/-- Behind an underscore stands the name of the elements, unless brackets come first. -/
theorem elementName?_underscore (rest : List Char) :
    (∃ name, rest = name ++ ['[', ']']) ∨ elementName? ('_' :: rest) = some rest := by
  unfold elementName?
  split
  · next reversed hreversed =>
    rw [List.reverse_cons] at hreversed
    cases reversed using List.reverseRecOn with
    | nil => exact absurd (congrArg List.getLast? hreversed) (by simp)
    | append_singleton more last =>
      have happend : rest.reverse ++ ['_'] = (']' :: '[' :: more) ++ [last] := hreversed
      have hrest := (List.append_inj' happend rfl).1
      refine .inl ⟨more.reverse, ?_⟩
      rw [← List.reverse_reverse rest, hrest]
      simp
  · exact .inr rfl

/-- No enum type has the name of an array. -/
def PlainEnums (schema : Schema) : Prop :=
  ∀ type ∈ schema.enums, elementName? type.name.toList = none

theorem plainEnums_of_nil {schema : Schema} (h : schema.enums = []) : schema.PlainEnums := by
  intro type htype
  rw [h] at htype
  exact absurd htype List.not_mem_nil

theorem PlainEnums.valueTypeOf {schema : Schema} (h : schema.PlainEnums) {name element : List Char}
    (helement : elementName? (Text.trimBlank name) = some element) :
    schema.valueTypeOf name = .array (schema.valueTypeOf element) := by
  refine valueTypeOf_element (List.find?_eq_none.mpr fun type htype hname => ?_) helement
  have hplain := h type htype
  rw [eq_of_beq hname, String.toList_ofList, helement] at hplain
  cases hplain

/-- **Brackets after a name are an array.** -/
theorem PlainEnums.brackets {schema : Schema} (h : schema.PlainEnums) (name : List Char) :
    schema.valueTypeOf (name ++ ['[', ']']) = .array (schema.valueTypeOf name) := by
  have htrim : Text.trimBlank (name ++ ['[', ']']) = Text.dropBlank name ++ ['[', ']'] := by
    have hsplit : name ++ ['[', ']'] = name ++ ['['] ++ [']'] := by simp
    rw [hsplit, Text.trimBlank_concat (by decide), Text.dropBlank_concat (by decide)]
    simp
  rw [h.valueTypeOf (htrim ▸ elementName?_brackets _),
    valueTypeOf_of_trimBlank (Text.trimBlank_dropBlank name)]

/-- **An underscore in front of a name is an array.** -/
theorem PlainEnums.underscore {schema : Schema} (h : schema.PlainEnums) (name : List Char) :
    schema.valueTypeOf ('_' :: name) = .array (schema.valueTypeOf name) := by
  induction hlength : name.length using Nat.strongRecOn generalizing name with
  | ind length ih =>
    subst hlength
    have htrim : Text.trimBlank ('_' :: name) = '_' :: Text.trimEnd name :=
      Text.trimBlank_cons (by decide) name
    have hsame : schema.valueTypeOf (Text.trimEnd name) = schema.valueTypeOf name :=
      valueTypeOf_of_trimBlank (Text.trimBlank_trimEnd name) schema
    rcases elementName?_underscore (Text.trimEnd name) with ⟨inner, hinner⟩ | hplain
    · have hbrackets : elementName? (Text.trimBlank ('_' :: name)) = some ('_' :: inner) := by
        rw [htrim, hinner]
        exact elementName?_brackets ('_' :: inner)
      have hlt : inner.length < name.length := by
        have hle := Text.length_trimEnd_le name
        rw [hinner, List.length_append] at hle
        exact Nat.lt_of_lt_of_le (Nat.lt_add_of_pos_right (by decide)) hle
      rw [h.valueTypeOf hbrackets, ih _ hlt inner rfl, ← hsame, hinner, h.brackets]
    · rw [h.valueTypeOf (htrim ▸ hplain), hsame]

end GatewayQuery.Schema
