/-
Names of array types.

An array is written in two ways, and a name may mix them at will, one around the other and with
blanks at every level.  The layers come off in another order than they were put on: an underscore
waits until no brackets are left at the end, although these may have been put on before it.  What is
left when all are off is the same, and as many arrays stand around it as there were layers; which of
the two notations each of them had leaves no trace.

That each layer by itself is an array, whatever it is put around, is where the order of taking off
is dealt with (`Proofs/Schema/ValueType.lean`).  The layers of a name are then counted one by one.
-/
import GatewayQuery.Proofs.Schema.ValueType
import Mathlib.Logic.Function.Iterate

namespace GatewayQuery.Schema

/-! ### Layers -/

/-- The two ways to write an array. -/
inductive ArrayMark where
  | underscore
  | brackets
  deriving DecidableEq, Repr

/-- The name of the elements with the mark. -/
def ArrayMark.write (name : List Char) : ArrayMark → List Char
  | .underscore => '_' :: name
  | .brackets => name ++ ['[', ']']

/-- What is put around a name: a mark, and blanks at both ends of the whole. -/
structure ArrayLayer where
  mark : ArrayMark
  front : List Char
  back : List Char
  blank_front : ∀ c ∈ front, Text.isBlank c = true
  blank_back : ∀ c ∈ back, Text.isBlank c = true

def ArrayLayer.write (layer : ArrayLayer) (name : List Char) : List Char :=
  layer.front ++ (layer.mark.write name ++ layer.back)

/-- The name with all the layers, the first of them outermost. -/
def ArrayLayer.writeAll (layers : List ArrayLayer) (name : List Char) : List Char :=
  layers.foldr ArrayLayer.write name

variable {schema : Schema}

theorem PlainEnums.layer (h : schema.PlainEnums) (layer : ArrayLayer) (name : List Char) :
    schema.valueTypeOf (layer.write name) = .array (schema.valueTypeOf name) := by
  have htrim : Text.trimBlank (layer.write name) = Text.trimBlank (layer.mark.write name) := by
    rw [ArrayLayer.write, Text.trimBlank_append layer.blank_front,
      Text.trimBlank_append_blanks layer.blank_back]
  rw [valueTypeOf_of_trimBlank htrim]
  cases layer.mark with
  | underscore => exact h.underscore name
  | brackets => exact h.brackets name

/-- Layers are counted, whatever they are. -/
theorem PlainEnums.layers (h : schema.PlainEnums) (layers : List ArrayLayer) (name : List Char) :
    schema.valueTypeOf (ArrayLayer.writeAll layers name) =
      ValueType.array^[layers.length] (schema.valueTypeOf name) := by
  induction layers with
  | nil => rfl
  | cons layer rest ih =>
    show schema.valueTypeOf (layer.write (ArrayLayer.writeAll rest name)) = _
    rw [h.layer, ih, List.length_cons, Function.iterate_succ_apply']

/-! ### Taking a name apart -/

theorem elementName?_cases {name element : List Char} (h : elementName? name = some element) :
    ∃ mark : ArrayMark, name = mark.write element := by
  unfold elementName? at h
  split at h
  · next rest hreverse =>
    cases h
    refine ⟨.brackets, ?_⟩
    rw [← List.reverse_reverse name, hreverse]
    simp [ArrayMark.write]
  · split at h
    · cases h
      exact ⟨.underscore, rfl⟩
    · cases h

/-- A step takes something off the trimmed name. -/
theorem length_trimBlank_element_lt {name element : List Char}
    (h : elementName? (Text.trimBlank name) = some element) :
    (Text.trimBlank element).length < (Text.trimBlank name).length :=
  Nat.lt_of_le_of_lt (Text.length_trimBlank_le element) (length_elementName?_lt h)

/-- Every name is layers around one that is not the name of an array. -/
theorem exists_arrayLayers (name : List Char) :
    ∃ layers core, name = ArrayLayer.writeAll layers core ∧
      elementName? (Text.trimBlank core) = none := by
  induction hlength : (Text.trimBlank name).length using Nat.strongRecOn generalizing name with
  | ind length ih =>
    subst hlength
    cases helement : elementName? (Text.trimBlank name) with
    | none => exact ⟨[], name, rfl, helement⟩
    | some element =>
      obtain ⟨layers, core, hlayers, hcore⟩ :=
        ih _ (length_trimBlank_element_lt helement) element rfl
      obtain ⟨mark, hmark⟩ := elementName?_cases helement
      obtain ⟨front, back, hfront, hback, hname⟩ := Text.exists_blanks_around name
      refine ⟨⟨mark, front, back, hfront, hback⟩ :: layers, core, ?_, hcore⟩
      show name = front ++ (mark.write (ArrayLayer.writeAll layers core) ++ back)
      rw [← hlayers, ← hmark]
      exact hname

/-! ### Both notations -/

theorem plainEnums_iff :
    schema.PlainEnums ↔ ∀ type ∈ schema.enums,
      ¬['_'] <+: type.name.toList ∧ ¬['[', ']'] <:+ type.name.toList := by
  have hname (name : List Char) :
      elementName? name = none ↔ ¬['_'] <+: name ∧ ¬['[', ']'] <:+ name := by
    constructor
    · intro hnone
      constructor
      · rintro ⟨rest, rfl⟩
        rcases elementName?_underscore rest with ⟨inner, rfl⟩ | hsome
        · exact absurd (hnone.symm.trans (elementName?_brackets ('_' :: inner))) (by simp)
        · exact absurd (hnone.symm.trans hsome) (by simp)
      · rintro ⟨inner, rfl⟩
        exact absurd (hnone.symm.trans (elementName?_brackets inner)) (by simp)
    · rintro ⟨hunderscore, hbrackets⟩
      by_contra hsome
      obtain ⟨element, helement⟩ := Option.ne_none_iff_exists'.mp hsome
      obtain ⟨mark, rfl⟩ := elementName?_cases helement
      cases mark with
      | underscore => exact hunderscore ⟨element, rfl⟩
      | brackets => exact hbrackets ⟨element, rfl⟩
  unfold PlainEnums
  simp only [hname]

/-- **The two notations for arrays agree at any depth.**  In a schema of whose enum types none has a
name that begins with an underscore or ends in brackets, an underscore in front of any text and
brackets behind it both stand for the array of what the text stands for.  So any mix of them, with
blanks wherever one of them is put on, stands for as many arrays as there are marks; and every text
is such a mix around one that is not the name of an array.  To take a mark off makes the trimmed
name shorter. -/
theorem array_notations_agree
    (h : ∀ type ∈ schema.enums, ¬['_'] <+: type.name.toList ∧ ¬['[', ']'] <:+ type.name.toList)
    (name : String) :
    schema.valueType ("_" ++ name) = .array (schema.valueType name) ∧
    schema.valueType (name ++ "[]") = .array (schema.valueType name) ∧
    (∀ layers : List ArrayLayer,
      schema.valueType (String.ofList (ArrayLayer.writeAll layers name.toList)) =
        ValueType.array^[layers.length] (schema.valueType name)) ∧
    (∃ layers core, name = String.ofList (ArrayLayer.writeAll layers core) ∧
      elementName? (Text.trimBlank core) = none ∧
      schema.valueType name =
        ValueType.array^[layers.length] (schema.valueType (String.ofList core))) ∧
    ∀ element, elementName? (Text.trimBlank name.toList) = some element →
      schema.valueType name = .array (schema.valueType (String.ofList element)) ∧
      (Text.trimBlank element).length < (Text.trimBlank name.toList).length := by
  have hplain : schema.PlainEnums := plainEnums_iff.mpr h
  have htext (text : List Char) :
      schema.valueType (String.ofList text) = schema.valueTypeOf text := by
    rw [valueType, String.toList_ofList]
  refine ⟨?_, ?_, fun layers => ?_, ?_, fun element helement => ⟨?_, ?_⟩⟩
  · have happend : ("_" ++ name).toList = '_' :: name.toList := by rw [String.toList_append]; rfl
    rw [valueType, happend, hplain.underscore, valueType]
  · have happend : (name ++ "[]").toList = name.toList ++ ['[', ']'] := String.toList_append
    rw [valueType, happend, hplain.brackets, valueType]
  · rw [htext, hplain.layers, valueType]
  · obtain ⟨layers, core, hname, hcore⟩ := exists_arrayLayers name.toList
    refine ⟨layers, core, ?_, hcore, ?_⟩
    · rw [← hname, String.ofList_toList]
    · rw [htext, valueType, hname, hplain.layers]
  · rw [htext, valueType, hplain.valueTypeOf helement]
  · exact length_trimBlank_element_lt helement

/-- A schema with an enum type. -/
def withStatus : Schema := ⟨[], [⟨"status", ["on", "off"]⟩]⟩

/-- The brackets of this name are put on last but one, and come off first. -/
theorem array_notations_agree_status :
    (∀ type ∈ withStatus.enums,
        ¬['_'] <+: type.name.toList ∧ ¬['[', ']'] <:+ type.name.toList) ∧
      withStatus.valueType "_ status []" = .array (.array (.enumeration ["on", "off"])) := by
  have hplain : ∀ type ∈ withStatus.enums,
      ¬['_'] <+: type.name.toList ∧ ¬['[', ']'] <:+ type.name.toList := by
    intro type htype
    obtain rfl : type = ⟨"status", ["on", "off"]⟩ := List.mem_singleton.mp htype
    decide
  have henum : withStatus.enum? (String.ofList (Text.trimBlank "status ".toList)) =
      some ⟨"status", ["on", "off"]⟩ := by decide
  have hstatus : withStatus.valueType "status " = .enumeration ["on", "off"] :=
    valueTypeOf_enum henum
  have hspace : ∀ c ∈ [' '], Text.isBlank c = true := List.forall_mem_singleton.mpr (by decide)
  have hlayers := (array_notations_agree hplain "status ").2.2.1
    [⟨.underscore, [], [], by simp, by simp⟩, ⟨.brackets, [' '], [], hspace, by simp⟩]
  rw [hstatus] at hlayers
  exact ⟨hplain, hlayers⟩

end GatewayQuery.Schema
