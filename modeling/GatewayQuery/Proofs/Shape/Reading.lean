/-
A shape is known by its text.

The text of a shape is taken apart again in two steps.  First it is read as a JSON value, which
undoes the quotes and the escapes and has nothing to do with shapes.  Then the value is read as a
shape, from the tags outward in: a type by its tag and what stands beside it, an entry by what its
members are called, a diagnosis by the names of its parts.

Three things could have collided and do not.  A type and the mark of what may be null are members
of one object, so a type has to be found among more members than its own.  An entry of a failure
stands where an entry of a type could stand; what tells them apart is a key that no type has.  And
the parts of a context that have no value leave no trace, which is read as their having none.
-/
import GatewayQuery.Proofs.Json.Document
import GatewayQuery.Shape.Json

namespace GatewayQuery

/-! ### Parts of a value -/

namespace Json

def text? : Json → Option String
  | .string text => some text
  | _ => none

def flag? : Json → Option Bool
  | .bool flag => some flag
  | _ => none

def list? {α : Type} (read : Json → Option α) : Json → Option (List α)
  | .array items => items.mapM read
  | _ => none

def members? : Json → Option (List (String × Json))
  | .object members => some members
  | _ => none

/-- The value of a member that has to be there. -/
def member? {α : Type} (name : String) (read : Json → Option α) (members : List (String × Json)) :
    Option α :=
  (members.lookup name).bind read

/-- The value of a member that may be left out. -/
def optional? {α : Type} (name : String) (read : Json → Option α)
    (members : List (String × Json)) : Option (Option α) :=
  match members.lookup name with
  | none => some none
  | some value => (read value).map some

theorem list?_map {α : Type} {read : Json → Option α} {write : α → Json}
    (h : ∀ value, read (write value) = some value) (values : List α) :
    list? read (.array (values.map write)) = some values := by
  show (values.map write).mapM read = some values
  induction values with
  | nil => rfl
  | cons value values ih => simp [h, ih]

end Json

open Json (text? flag? list? members? member? optional?)

theorem texts?_stringsJson (texts : List String) : list? text? (stringsJson texts) = some texts :=
  Json.list?_map (fun text => show text? (Json.string text) = some text from rfl) texts

/-! ### Diagnoses -/

def Candidate.ofJson? (value : Json) : Option Candidate := do
  let members ← members? value
  return ⟨← member? "foreign_key_name" text? members, ← member? "owner" text? members,
    ← member? "columns" (list? text?) members, ← member? "referenced_relation" text? members⟩

theorem Candidate.ofJson?_toJson (candidate : Candidate) :
    ofJson? candidate.toJson = some candidate := by
  simp [ofJson?, toJson, members?, member?, List.lookup_cons, text?, texts?_stringsJson]

def Diagnosis.Kind.ofName? : String → Option Diagnosis.Kind
  | "ambiguous_relationship" => some .ambiguousRelationship
  | "relationship_not_found" => some .relationshipNotFound
  | "unknown_column" => some .unknownColumn
  | "unknown_relation" => some .unknownRelation
  | "illegal_spread" => some .illegalSpread
  | "duplicate_embedding" => some .duplicateEmbedding
  | _ => none

theorem Diagnosis.Kind.ofName?_name (kind : Diagnosis.Kind) : ofName? kind.name = some kind := by
  cases kind <;> rfl

def Diagnosis.Context.ofJson? (value : Json) : Option Diagnosis.Context := do
  let members ← members? value
  let candidates ← optional? "candidates" (list? Candidate.ofJson?) members
  return ⟨← optional? "relation" text? members, ← optional? "target" text? members,
    candidates.getD [], ← optional? "hint" text? members⟩

section Contexts

variable {name other : String}

theorem lookup_optionalMember (name : String) (value : Option String) :
    (optionalMember name value).lookup name = value.map .string := by
  cases value with
  | none => rfl
  | some text => simp [optionalMember]

theorem lookup_optionalMember_of_ne (h : other ≠ name) (value : Option String) :
    (optionalMember name value).lookup other = none := by
  cases value with
  | none => rfl
  | some text => simp [optionalMember, List.lookup_cons, beq_false_of_ne h]

/-- The member for the candidates, which is left out when there are none. -/
theorem lookup_candidates (candidates : List Candidate) :
    (if candidates.isEmpty then []
        else [("candidates", Json.array (candidates.map Candidate.toJson))]).lookup name =
      if name = "candidates" ∧ candidates ≠ [] then
        some (Json.array (candidates.map Candidate.toJson)) else none := by
  cases candidates with
  | nil => simp
  | cons candidate rest =>
    by_cases h : name = "candidates"
    · simp [h]
    · simp [List.lookup_cons, beq_false_of_ne h, h]

theorem optional?_text {members : List (String × Json)} {value : Option String}
    (h : members.lookup name = value.map .string) : optional? name text? members = some value := by
  unfold optional?
  rw [h]
  cases value with
  | none => rfl
  | some text => rfl

end Contexts

/-- A part that left no trace had no value. -/
theorem Diagnosis.Context.ofJson?_toJson (context : Diagnosis.Context) :
    ofJson? context.toJson = some context := by
  obtain ⟨relation, target, candidates, hint⟩ := context
  generalize hmembers : optionalMember "relation" relation ++ optionalMember "target" target ++
    (if candidates.isEmpty then []
      else [("candidates", Json.array (candidates.map Candidate.toJson))]) ++
    optionalMember "hint" hint = members
  have hlookup (name : String) := congrArg (List.lookup name) hmembers
  simp only [List.lookup_append, lookup_candidates] at hlookup
  have hrelation : optional? "relation" text? members = some relation := by
    refine optional?_text ?_
    rw [← hlookup]
    simp [lookup_optionalMember, lookup_optionalMember_of_ne]
  have htarget : optional? "target" text? members = some target := by
    refine optional?_text ?_
    rw [← hlookup]
    simp [lookup_optionalMember, lookup_optionalMember_of_ne]
  have hhint : optional? "hint" text? members = some hint := by
    refine optional?_text ?_
    rw [← hlookup]
    simp [lookup_optionalMember, lookup_optionalMember_of_ne]
  have hcandidates : ∃ found,
      optional? "candidates" (list? Candidate.ofJson?) members = some found ∧
        found.getD [] = candidates := by
    have hmember : members.lookup "candidates" =
        if candidates ≠ [] then some (.array (candidates.map Candidate.toJson)) else none := by
      rw [← hlookup]
      simp [lookup_optionalMember_of_ne]
    unfold optional?
    rw [hmember]
    by_cases hnone : candidates = []
    · exact ⟨none, by simp [hnone], by simp [hnone]⟩
    · refine ⟨some candidates, ?_, rfl⟩
      rw [if_pos hnone]
      simp only [Json.list?_map Candidate.ofJson?_toJson, Option.map_some]
  obtain ⟨found, hfound, hsame⟩ := hcandidates
  have htext : toJson ⟨relation, target, candidates, hint⟩ = .object members := by
    rw [← hmembers]
    rfl
  rw [htext]
  simp [ofJson?, members?, hrelation, htarget, hhint, hfound, hsame]

def Diagnosis.ofJson? (value : Json) : Option Diagnosis := do
  let members ← members? value
  return ⟨← (member? "kind" text? members).bind Diagnosis.Kind.ofName?,
    ← member? "message" text? members, ← member? "context" Diagnosis.Context.ofJson? members⟩

theorem Diagnosis.ofJson?_toJson (diagnosis : Diagnosis) :
    ofJson? diagnosis.toJson = some diagnosis := by
  simp [ofJson?, toJson, members?, member?, List.lookup_cons, text?, Kind.ofName?_name,
    Context.ofJson?_toJson]

/-! ### Types -/

/-- The type of a tag that says it all. -/
def ValueType.ofTag? : String → Option ValueType
  | "number" => some .number
  | "string" => some .string
  | "boolean" => some .boolean
  | "json" => some .json
  | "record" => some .record
  | "void" => some .void
  | "unknown" => some .unknown
  | _ => none

/-- An entry, from its members and the type that they tell. -/
def Entry.ofMembers? (members : List (String × Json)) (type : Option ValueType) : Option Entry :=
  match members.lookup "error" with
  | some diagnosis => (Diagnosis.ofJson? diagnosis).map .failed
  | none => do return .typed (← type) (← member? "nullable" flag? members)

mutual

/-- The type that some members begin with. -/
def ValueType.ofMembers? : List (String × Json) → Option ValueType
  | ("type", .string tag) :: (name, content) :: _ =>
    if name = "of" then ValueType.ofContent? tag content else ValueType.ofTag? tag
  | [("type", .string tag)] => ValueType.ofTag? tag
  | _ => none

/-- The type of a tag and what it is made of. -/
def ValueType.ofContent? (tag : String) : Json → Option ValueType
  | .array labels =>
    if tag = "enum" then (list? text? (.array labels)).map .enumeration else none
  | .object members =>
    if tag = "array" then (ValueType.ofMembers? members).map .array
    else if tag = "object" then (Shape.ofMembers? members).map .object
    else none
  | _ => none

/-- The keys of a shape with their entries. -/
def Shape.ofMembers? : List (String × Json) → Option (List (String × Entry))
  | [] => some []
  | (key, .object members) :: rest => do
    let entry ← Entry.ofMembers? members (ValueType.ofMembers? members)
    return (key, entry) :: (← Shape.ofMembers? rest)
  | _ => none

end

/-- A tag that says it all is read whatever stands behind it, unless that is what a type is made
of. -/
theorem ValueType.ofMembers?_tag {tag : String} {type : ValueType} (h : ofTag? tag = some type)
    {behind : List (String × Json)} (hbehind : (Keyed.keys behind).head? ≠ some "of") :
    ofMembers? (("type", .string tag) :: behind) = some type := by
  cases behind with
  | nil => exact h
  | cons member rest =>
    obtain ⟨name, content⟩ := member
    have hname : name ≠ "of" := fun hsame => hbehind (by simp [Keyed.keys, hsame])
    rw [ofMembers?, if_neg hname]
    exact h

theorem ValueType.ofMembers?_content (tag : String) (content : Json)
    (behind : List (String × Json)) :
    ofMembers? (("type", .string tag) :: ("of", content) :: behind) = ofContent? tag content := by
  rw [ofMembers?, if_pos rfl]

/-- No type has a member that an entry has besides. -/
theorem ValueType.lookup_members (type : ValueType) {name : String} (htype : name ≠ "type")
    (hof : name ≠ "of") : type.members.lookup name = none := by
  cases type <;> simp [members, List.lookup_cons, beq_false_of_ne htype, beq_false_of_ne hof]

mutual

/-- A type is found among the members of an entry, and alone. -/
theorem ValueType.ofMembers?_members (behind : List (String × Json))
    (hbehind : (Keyed.keys behind).head? ≠ some "of") :
    ∀ type : ValueType, ValueType.ofMembers? (type.members ++ behind) = some type
  | .number | .string | .boolean | .json | .record | .void | .unknown =>
    ValueType.ofMembers?_tag rfl hbehind
  | .enumeration labels => by
    have hlabels : list? text? (.array (labels.map .string)) = some labels :=
      texts?_stringsJson labels
    rw [ValueType.members, List.cons_append, List.cons_append, ValueType.ofMembers?_content,
      stringsJson, ValueType.ofContent?, if_pos rfl, hlabels, Option.map_some]
  | .array element => by
    have helement := ValueType.ofMembers?_members [] (by simp [Keyed.keys]) element
    rw [List.append_nil] at helement
    rw [ValueType.members, List.cons_append, List.cons_append, ValueType.ofMembers?_content,
      ValueType.ofContent?, if_pos rfl, helement, Option.map_some]
  | .object fields => by
    rw [ValueType.members, List.cons_append, List.cons_append, ValueType.ofMembers?_content,
      ValueType.ofContent?, if_neg (by decide), if_pos rfl, Shape.ofMembers?_members fields,
      Option.map_some]

theorem Entry.ofMembers?_toJson : ∀ entry : Entry, ∃ members, entry.toJson = .object members ∧
    Entry.ofMembers? members (ValueType.ofMembers? members) = some entry
  | .typed type nullable => by
    refine ⟨type.members ++ [("nullable", .bool nullable)], rfl, ?_⟩
    have herror : (type.members ++ [("nullable", Json.bool nullable)]).lookup "error" = none := by
      rw [List.lookup_append, type.lookup_members (by decide) (by decide)]
      rfl
    have hnullable : member? "nullable" flag? (type.members ++ [("nullable", .bool nullable)]) =
        some nullable := by
      rw [member?, List.lookup_append, type.lookup_members (by decide) (by decide)]
      rfl
    rw [ValueType.ofMembers?_members [("nullable", .bool nullable)] (by simp [Keyed.keys]) type,
      Entry.ofMembers?, herror, hnullable]
    rfl
  | .failed diagnosis =>
    ⟨[("error", diagnosis.toJson)], rfl, by
      simp [Entry.ofMembers?, diagnosis.ofJson?_toJson]⟩

theorem Shape.ofMembers?_members :
    ∀ fields : List (String × Entry), Shape.ofMembers? (Shape.members fields) = some fields
  | [] => rfl
  | (key, entry) :: rest => by
    obtain ⟨members, hmembers, hentry⟩ := Entry.ofMembers?_toJson entry
    rw [Shape.members, hmembers, Shape.ofMembers?, hentry, Shape.ofMembers?_members rest]
    rfl

end

/-! ### The text of a shape -/

namespace Json

theorem numberless_strings (texts : List String) : (stringsJson texts).Numberless := by
  refine itemsNumberless_iff.mpr fun item hitem => ?_
  obtain ⟨text, -, rfl⟩ := List.mem_map.mp hitem
  trivial

theorem numberless_optionalMember (name : String) (value : Option String) :
    MembersNumberless (optionalMember name value) := by
  cases value with
  | none => trivial
  | some text => exact ⟨trivial, trivial⟩

theorem membersNumberless_append {first second : List (String × Json)}
    (hfirst : MembersNumberless first) (hsecond : MembersNumberless second) :
    MembersNumberless (first ++ second) := by
  rw [membersNumberless_iff] at hfirst hsecond ⊢
  exact List.forall_mem_append.mpr ⟨hfirst, hsecond⟩

end Json

theorem Candidate.numberless (candidate : Candidate) : candidate.toJson.Numberless :=
  ⟨trivial, trivial, Json.numberless_strings _, trivial, trivial⟩

theorem Diagnosis.Context.numberless (context : Diagnosis.Context) :
    context.toJson.Numberless := by
  have hcandidates : Json.MembersNumberless (if context.candidates.isEmpty then []
      else [("candidates", .array (context.candidates.map Candidate.toJson))]) := by
    split
    · trivial
    · refine ⟨Json.itemsNumberless_iff.mpr fun item hitem => ?_, trivial⟩
      obtain ⟨candidate, -, rfl⟩ := List.mem_map.mp hitem
      exact candidate.numberless
  refine Json.membersNumberless_append (Json.membersNumberless_append
    (Json.membersNumberless_append ?_ ?_) hcandidates) ?_
  · exact Json.numberless_optionalMember _ _
  · exact Json.numberless_optionalMember _ _
  · exact Json.numberless_optionalMember _ _

theorem Diagnosis.numberless (diagnosis : Diagnosis) : diagnosis.toJson.Numberless :=
  ⟨trivial, trivial, diagnosis.context.numberless, trivial⟩

mutual

theorem ValueType.numberless : ∀ type : ValueType, Json.MembersNumberless type.members
  | .number | .string | .boolean | .json | .record | .void | .unknown => ⟨trivial, trivial⟩
  | .enumeration labels => ⟨trivial, Json.numberless_strings labels, trivial⟩
  | .array element => ⟨trivial, ValueType.numberless element, trivial⟩
  | .object fields => ⟨trivial, Shape.numberless fields, trivial⟩

theorem Entry.numberless : ∀ entry : Entry, entry.toJson.Numberless
  | .typed type _ => Json.membersNumberless_append (ValueType.numberless type) ⟨trivial, trivial⟩
  | .failed diagnosis => ⟨diagnosis.numberless, trivial⟩

theorem Shape.numberless :
    ∀ fields : List (String × Entry), Json.MembersNumberless (Shape.members fields)
  | [] => trivial
  | (_, entry) :: rest => ⟨Entry.numberless entry, Shape.numberless rest⟩

end

namespace Shape

/-- The shape that a text holds. -/
def ofText? (text : String) : Option Shape :=
  match Json.parse text with
  | .ok (.object members) => ofMembers? members
  | _ => none

theorem ofText?_print (shape : Shape) : ofText? shape.toJson.print = some shape := by
  have hparse : Json.parse shape.toJson.print = .ok (.object (members shape)) :=
    Json.parse_print (show (Json.object (members shape)).Numberless from Shape.numberless shape)
  unfold ofText?
  rw [hparse]
  exact ofMembers?_members shape

/-- **The text of a shape holds that shape and no other**: its keys in their order, every type with
its mark, and of every failure the kind, the message and the whole context. -/
theorem text_determines (first second : Shape) :
    ofText? first.toJson.print = some first ∧
      (first.toJson.print = second.toJson.print ↔ first = second) := by
  refine ⟨ofText?_print first, fun h => ?_, fun h => by rw [h]⟩
  have hsame : some first = some second := by
    rw [← ofText?_print first, h, ofText?_print second]
  exact Option.some.inj hsame

end Shape

end GatewayQuery
