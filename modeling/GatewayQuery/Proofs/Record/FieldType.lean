/-
Field types and value types agree.

A derived column has the name of a database type, and whoever selects the column looks that name up
again.  The two sides have nothing in common but the text, so what is proved here goes through it:
a field type is taken apart into layers around an element, the name that is inferred for it is the
one of the element with an underscore for each list, and an underscore is read as an array
(`Proofs/Schema/ValueType.lean`).  Options and references leave no trace in the name.

The layers are described without the inference, and so are the values of an element.  That a name is
inferred for no other types is part of the result.
-/
import GatewayQuery.Proofs.Schema.ValueType
import GatewayQuery.Record.FieldType
import Mathlib.Logic.Function.Iterate

namespace GatewayQuery

/-- Somewhere in the type there is one without a counterpart. -/
inductive ValueType.HasUnknown : ValueType → Prop
  | here : HasUnknown .unknown
  | element {element : ValueType} (h : HasUnknown element) : HasUnknown (.array element)
  | field {fields : List (String × Entry)} {key : String} {type : ValueType} {nullable : Bool}
      (hmem : (key, .typed type nullable) ∈ fields) (h : HasUnknown type) :
      HasUnknown (.object fields)

namespace Record.TypeExpr

/-! ### Types as layers -/

/-- What a type puts around another one. -/
inductive Layer where
  | option
  | list
  | reference
  deriving DecidableEq, Repr

/-- The values of a plain type, by the last part of its name. -/
def plainValue? : String → Option ValueType
  | "bool" => some .boolean
  | "i16" | "i32" | "i64" | "u32" | "f32" | "f64" | "Decimal" => some .number
  | "String" | "str" | "Uuid" | "NaiveDate" | "NaiveTime" | "NaiveDateTime" | "DateTime" =>
    some .string
  | "Value" => some .json
  | _ => none

/-- The first argument that is a type. -/
def innerType? : List TypeArgument → Option TypeExpr
  | [] => none
  | .type inner :: _ => some inner
  | .lifetime _ :: rest => innerType? rest

/-- A type without layers, and its values: a plain type, or a list of bytes, which counts as one
value. -/
inductive Element : TypeExpr → ValueType → Prop
  | plain {segments : List String} {arguments : List TypeArgument} {name : String}
      {value : ValueType} (hname : segments.getLast? = some name)
      (hvalue : plainValue? name = some value) : Element (.path segments arguments) value
  | bytes {segments : List String} {arguments : List TypeArgument} {inner : TypeExpr}
      (hname : segments.getLast? = some "Vec") (hinner : innerType? arguments = some inner)
      (hbyte : inner.lastName? = some "u8") : Element (.path segments arguments) .string

/-- A type with layers around an element, the outermost first, and the values of the element. -/
inductive Layered : List Layer → TypeExpr → ValueType → Prop
  | element {type : TypeExpr} {value : ValueType} (h : Element type value) :
      Layered [] type value
  | option {segments : List String} {arguments : List TypeArgument} {inner : TypeExpr}
      {layers : List Layer} {value : ValueType} (hname : segments.getLast? = some "Option")
      (hinner : innerType? arguments = some inner) (h : Layered layers inner value) :
      Layered (.option :: layers) (.path segments arguments) value
  | list {segments : List String} {arguments : List TypeArgument} {inner : TypeExpr}
      {layers : List Layer} {value : ValueType} (hname : segments.getLast? = some "Vec")
      (hinner : innerType? arguments = some inner) (hbyte : inner.lastName? ≠ some "u8")
      (h : Layered layers inner value) : Layered (.list :: layers) (.path segments arguments) value
  | reference {target : TypeExpr} {layers : List Layer} {value : ValueType}
      (h : Layered layers target value) : Layered (.reference :: layers) (.reference target) value

/-- The outermost layer, references apart. -/
def outermost (layers : List Layer) : Option Layer := layers.find? (· != .reference)

/-! ### What is inferred -/

variable {segments : List String} {arguments : List TypeArgument} {inner : TypeExpr}

theorem argumentType_eq (arguments : List TypeArgument) :
    argumentType arguments =
      (innerType? arguments).map fun inner => (columnType inner, lastName? inner) := by
  induction arguments with
  | nil => rw [argumentType, innerType?, Option.map_none]
  | cons argument rest ih =>
    cases argument with
    | type inner => rw [argumentType, innerType?, Option.map_some]
    | lifetime name => rw [argumentType, innerType?, ih]

theorem columnType_option (hname : segments.getLast? = some "Option")
    (hinner : innerType? arguments = some inner) :
    columnType (.path segments arguments) = (inner.columnType.1, true) := by
  rw [columnType, if_pos hname, argumentType_eq, hinner]
  rfl

theorem columnType_vec (hname : segments.getLast? = some "Vec")
    (hinner : innerType? arguments = some inner) :
    columnType (.path segments arguments) =
      if inner.lastName? = some "u8" then (some "bytea", false)
      else (inner.columnType.1.map ("_" ++ ·), false) := by
  rw [columnType, hname, if_neg (by decide), if_pos rfl, argumentType_eq, hinner]
  rfl

theorem columnType_plain {name : String} (hname : segments.getLast? = some name)
    (hplain : innerType? arguments = none ∨ name ≠ "Option" ∧ name ≠ "Vec") :
    columnType (.path segments arguments) = (scalarType? name, false) := by
  rw [columnType, hname, argumentType_eq]
  rcases hplain with hnone | ⟨hoption, hvec⟩
  · rw [hnone]
    simp
  · simp [hoption, hvec]

/-! ### What the names mean -/

theorem valueType_underscore (name : String) :
    Schema.empty.valueType ("_" ++ name) = .array (Schema.empty.valueType name) := by
  have hname : ("_" ++ name).toList = '_' :: name.toList := by rw [String.toList_append]; rfl
  rw [Schema.valueType, hname, (Schema.plainEnums_of_nil rfl).underscore, Schema.valueType]

/-- The two tables fit: the name that is inferred for a plain type stands for the values of that
type. -/
theorem valueType_scalarType? (name : String) :
    (scalarType? name).map Schema.empty.valueType = plainValue? name := by
  unfold scalarType?
  split
  -- a name outside of the one table is not in the other
  case h_17 => simp_all [plainValue?]
  all_goals exact congrArg some (Schema.valueTypeOf_scalar rfl rfl)

theorem plainValue?_known {name : String} {value : ValueType} (h : plainValue? name = some value) :
    ¬value.HasUnknown := by
  unfold plainValue? at h
  intro hunknown
  split at h <;> cases h <;> cases hunknown

theorem hasUnknown_array_iff {element : ValueType} :
    (ValueType.array element).HasUnknown ↔ element.HasUnknown :=
  ⟨fun | .element h => h, .element⟩

/-! ### Inference and meaning together -/

/-- What is inferred for a type, when a schema without enum types reads it. -/
structure Reads (type : TypeExpr) (layers : List Layer) (value : ValueType) (name : String)
    (nullable : Bool) : Prop where
  inferred : type.columnType = (some name, nullable)
  meaning : Schema.empty.valueType name = ValueType.array^[layers.count .list] value
  known : ¬(Schema.empty.valueType name).HasUnknown
  nullable : nullable = true ↔ outermost layers = some .option

theorem Element.reads {type : TypeExpr} {value : ValueType} (h : Element type value) :
    ∃ name nullable, Reads type [] value name nullable := by
  cases h with
  | @plain _ _ name value hname hvalue =>
    have hscalar := valueType_scalarType? name
    rw [hvalue] at hscalar
    obtain ⟨dataType, hdataType, hmeaning⟩ := Option.map_eq_some_iff.mp hscalar
    have hwrapper : name ≠ "Option" ∧ name ≠ "Vec" := by
      constructor
      · rintro rfl
        cases hvalue
      · rintro rfl
        cases hvalue
    refine ⟨dataType, false, ?_, hmeaning, ?_, by decide⟩
    · rw [columnType_plain hname (.inr hwrapper), hdataType]
    · rw [hmeaning]
      exact plainValue?_known hvalue
  | bytes hname hinner hbyte =>
    have hmeaning : Schema.empty.valueType "bytea" = .string := Schema.valueTypeOf_scalar rfl rfl
    refine ⟨"bytea", false, ?_, hmeaning, ?_, by decide⟩
    · rw [columnType_vec hname hinner, if_pos hbyte]
    · rw [hmeaning]
      rintro ⟨⟩

theorem Layered.reads {layers : List Layer} {type : TypeExpr} {value : ValueType}
    (h : Layered layers type value) : ∃ name nullable, Reads type layers value name nullable := by
  induction h with
  | element h => exact h.reads
  | option hname hinner _ ih =>
    obtain ⟨name, nullable, hreads⟩ := ih
    refine ⟨name, true, ?_, hreads.meaning, hreads.known, by simp [outermost]⟩
    rw [columnType_option hname hinner, hreads.inferred]
  | @list _ _ _ layers value hname hinner hbyte _ ih =>
    obtain ⟨name, nullable, hreads⟩ := ih
    refine ⟨"_" ++ name, false, ?_, ?_, ?_, by simp [outermost]⟩
    · rw [columnType_vec hname hinner, if_neg hbyte, hreads.inferred]
      rfl
    · rw [valueType_underscore, hreads.meaning, List.count_cons_self,
        Function.iterate_succ_apply']
    · rw [valueType_underscore, hasUnknown_array_iff]
      exact hreads.known
  | reference _ ih =>
    obtain ⟨name, nullable, hreads⟩ := ih
    exact ⟨name, nullable, by rw [columnType, hreads.inferred], hreads.meaning, hreads.known,
      hreads.nullable⟩

theorem layered_of_scalarType? {last dataType : String} (hname : segments.getLast? = some last)
    (h : scalarType? last = some dataType) :
    ∃ layers value, Layered layers (.path segments arguments) value := by
  have hvalue := valueType_scalarType? last
  rw [h] at hvalue
  exact ⟨[], _, .element (.plain hname hvalue.symm)⟩

mutual

/-- A name is inferred for layers around an element only. -/
theorem exists_layered (type : TypeExpr) {name : String} (h : type.columnType.1 = some name) :
    ∃ layers value, Layered layers type value := by
  cases type with
  | path segments arguments =>
    cases hname : segments.getLast? with
    | none => simp [columnType, hname] at h
    | some last =>
      cases hinner : innerType? arguments with
      | none =>
        rw [columnType_plain hname (.inl hinner)] at h
        exact layered_of_scalarType? hname h
      | some inner =>
        by_cases hoption : last = "Option"
        · subst hoption
          rw [columnType_option hname hinner] at h
          obtain ⟨layers, value, hlayered⟩ := exists_layered_inner arguments hinner h
          exact ⟨_, value, .option hname hinner hlayered⟩
        · by_cases hvec : last = "Vec"
          · subst hvec
            rw [columnType_vec hname hinner] at h
            split at h
            · next hbyte => exact ⟨[], _, .element (.bytes hname hinner hbyte)⟩
            · next hbyte =>
              obtain ⟨_, hsome, -⟩ := Option.map_eq_some_iff.mp h
              obtain ⟨layers, value, hlayered⟩ := exists_layered_inner arguments hinner hsome
              exact ⟨_, value, .list hname hinner hbyte hlayered⟩
          · rw [columnType_plain hname (.inr ⟨hoption, hvec⟩)] at h
            exact layered_of_scalarType? hname h
  | reference target =>
    rw [columnType] at h
    obtain ⟨layers, value, hlayered⟩ := exists_layered target h
    exact ⟨_, value, .reference hlayered⟩
  | slice _ => cases h
  | array _ => cases h
  | parens _ => cases h
  | tuple _ => cases h
termination_by structural type

theorem exists_layered_inner (arguments : List TypeArgument) {inner : TypeExpr}
    (hinner : innerType? arguments = some inner) {name : String}
    (h : inner.columnType.1 = some name) : ∃ layers value, Layered layers inner value := by
  cases arguments with
  | nil => cases hinner
  | cons argument rest =>
    cases argument with
    | type found =>
      obtain rfl := Option.some.inj hinner
      exact exists_layered found h
    | lifetime _ => exact exists_layered_inner rest hinner h
termination_by structural arguments

end

/-- **Field types and value types agree.**  A name is inferred for a type exactly if the type is
layers around an element.  In a schema without enum types the name then stands for the values of the
element, in as many arrays as there are lists among the layers; nothing in it is unknown, and
options and references leave no trace.  The column is nullable exactly if the outermost layer is an
option. -/
theorem columnType_layered {schema : Schema} (h : schema.enums = []) (type : TypeExpr) :
    ((∃ name, type.columnType.1 = some name) ↔ ∃ layers value, Layered layers type value) ∧
    ∀ layers value, Layered layers type value → ∃ name nullable,
      type.columnType = (some name, nullable) ∧
      schema.valueType name = ValueType.array^[layers.count .list] value ∧
      ¬(schema.valueType name).HasUnknown ∧
      (nullable = true ↔ outermost layers = some .option) := by
  have hschema : schema.valueType = Schema.empty.valueType := Schema.valueType_congr h
  rw [hschema]
  refine ⟨⟨fun ⟨name, hname⟩ => exists_layered type hname, ?_⟩, ?_⟩
  · rintro ⟨layers, value, hlayered⟩
    obtain ⟨name, nullable, hreads⟩ := hlayered.reads
    exact ⟨name, congrArg Prod.fst hreads.inferred⟩
  · intro layers value hlayered
    obtain ⟨name, nullable, hreads⟩ := hlayered.reads
    exact ⟨name, nullable, hreads.inferred, hreads.meaning, hreads.known, hreads.nullable⟩

/-- An option of a reference to a list of byte strings. -/
def chunks : TypeExpr :=
  .path ["std", "option", "Option"] [.type (.reference
    (.path ["Vec"] [.type (.path ["Vec"] [.type (.path ["u8"] [])])]))]

/-- Bytes are the one list that is no array. -/
theorem columnType_layered_chunks :
    Layered [.option, .reference, .list] chunks .string ∧
      chunks.columnType = (some "_bytea", true) ∧
      Schema.empty.valueType "_bytea" = .array .string := by
  have hlayered : Layered [.option, .reference, .list] chunks .string :=
    .option rfl rfl (.reference (.list rfl rfl (by decide) (.element (.bytes rfl rfl rfl))))
  have hname : chunks.columnType = (some "_bytea", true) := rfl
  obtain ⟨name, nullable, hinferred, hmeaning, -, -⟩ :=
    (columnType_layered (rfl : Schema.empty.enums = []) chunks).2 _ _ hlayered
  obtain rfl : "_bytea" = name := Option.some.inj (congrArg Prod.fst (hname.symm.trans hinferred))
  exact ⟨hlayered, hname, hmeaning⟩

end Record.TypeExpr

end GatewayQuery
