/-
What cleaning does to a text that the parser rejects.

A request is built from the cleaned text, and it is that text which is parsed.  Dropping a blank
can make one token of two, so a text that is rejected as it was written may be sent after all: `id
name` becomes the column `idname`.  That is the only way.  Where cleaning leaves every token as long
as it is, the cleaned text has the same tokens, and it is rejected with the same message.

A token grows by what cleaning brings right behind it.  Of the characters that begin no token only
the dash can become one, when the head of an arrow follows.
-/
import GatewayQuery.Proofs.Select.Cleaning
import GatewayQuery.Proofs.Select.Whitespace

namespace GatewayQuery.Select

open Text (dropBlank_append dropBlank_cons)
open Token (Kind)

namespace Tokens

/-! ### Cleaning a layout -/

theorem cleanFrom_gap {gap : List Char} (h : ∀ c ∈ gap, Text.isBlank c = true)
    (rest : List Char) : cleanFrom false (gap ++ rest) = cleanFrom false rest := by
  rw [← cleanFrom_dropBlank, dropBlank_append h, cleanFrom_dropBlank]

/-- Behind a quote that is never closed everything stays. -/
theorem cleanFrom_unterminated {cs : List Char} (h : '"' ∉ cs) : cleanFrom true cs = cs := by
  induction cs with
  | nil => rfl
  | cons c cs ih =>
    rw [List.mem_cons, not_or] at h
    rw [cleanFrom, if_neg (Ne.symm h.1), ih h.2]
    simp

/-- Where no token begins none begins in the cleaned text, unless a dash has become an arrow. -/
theorem faulty_cleanFrom {c : Char} {rest : List Char} {why : Token.Fault}
    (hfault : Lexeme.Faulty c rest why) (hblank : Text.isBlank c = false)
    (hdash : ¬['-', '>'] <+: cleanFrom false (c :: rest)) :
    ∃ rest', cleanFrom false (c :: rest) = c :: rest' ∧ Lexeme.Faulty c rest' why := by
  have hstays : c ≠ '"' → cleanFrom false (c :: rest) = c :: cleanFrom false rest := by
    intro hquote
    have hone : ∀ d ∈ [c], Text.isBlank d = false ∧ d ≠ '"' := by simpa using ⟨hblank, hquote⟩
    exact cleanFrom_append hone
  cases hfault with
  | unterminated hquote =>
    refine ⟨rest, ?_, .unterminated hquote⟩
    rw [cleanFrom, if_pos rfl, hblank]
    simp [cleanFrom_unterminated hquote]
  | dash hrest =>
    refine ⟨_, hstays (by decide), .dash fun hhead => hdash ?_⟩
    obtain ⟨more, hmore⟩ := List.head?_eq_some_iff.mp hhead
    rw [hstays (by decide), hmore]
    exact ⟨more, rfl⟩
  | other hname hsymbol =>
    refine ⟨_, hstays ?_, .other hname hsymbol⟩
    rintro rfl
    simp at hsymbol

/-- Where a text is laid out and cleaning fuses nothing, it has the same tokens when it is
cleaned.  The text stands behind a front of the input, to which the places refer. -/
theorem Laid.clean {offset : Nat} {cs : List Char} {tokens : Tokens} (h : Laid offset cs tokens)
    {input : String} {front : List Char} (hinput : input.toList = front ++ cs)
    (hoffset : offset = Text.byteLength front)
    (htokens : ∀ token ∈ tokens.tokens, token.kind.EndsBefore
      (Select.clean ((Text.Span.point token.span.stop).remainder input)).toList)
    (hdash : ¬['-', '>'] <+: (Select.clean (tokens.stop.span.remainder input)).toList)
    (start : Nat) : (scan start (cleanFrom false cs)).outline = tokens.outline := by
  induction h generalizing front start with
  | @finish offset cs hblank =>
    have hclean : cleanFrom false (cs ++ []) = [] := cleanFrom_gap hblank []
    rw [List.append_nil] at hclean
    rw [hclean]
    exact outline_finish start rfl
  | @fault offset stop gap rest c why hgap hblank hfault =>
    rw [← List.append_assoc] at hinput
    have hleft := Text.remainder_append (front ++ gap) (c :: rest) stop hinput
    rw [Text.byteLength_append, ← hoffset] at hleft
    rw [hleft, Select.clean, String.toList_ofList, String.toList_ofList] at hdash
    obtain ⟨rest', hclean, hfault'⟩ := faulty_cleanFrom hfault hblank hdash
    rw [cleanFrom_gap hgap, hclean]
    exact outline_fault start (dropBlank_cons hblank _) hfault'
  | @token offset gap rest kind more hgap hspell hends hmore ih =>
    have hbehind : input.toList = (front ++ (gap ++ kind.spelling)) ++ rest := by
      rw [hinput]
      simp
    have hplace : offset + Text.byteLength gap + Text.byteLength kind.spelling =
        Text.byteLength (front ++ (gap ++ kind.spelling)) := by
      rw [hoffset, Text.byteLength_append, Text.byteLength_append]
      omega
    have hends' : kind.EndsBefore (cleanFrom false rest) := by
      have hkind := htokens _ List.mem_cons_self
      rw [Text.Span.point, hplace, Text.remainder_append _ rest _ hbehind, Select.clean,
        String.toList_ofList, String.toList_ofList] at hkind
      exact hkind
    obtain ⟨start', houtline⟩ :=
      outline_token start (dropBlank_spelling hspell hends') hspell hends'
    have hlater := ih hbehind hplace (fun token hmem => htokens token (List.mem_cons_of_mem _ hmem))
      hdash start'
    rw [cleanFrom_gap hgap, cleanFrom_spelling hspell, houtline, hlater]
    rfl

end Tokens

/-- Cleaning brings nothing behind a token that is read with it, and behind a dash that begins no
token no head of an arrow. -/
structure Unfused (input : String) : Prop where
  token : ∀ token ∈ (Tokens.ofString input).tokens, token.kind.EndsBefore
    (clean ((Text.Span.point token.span.stop).remainder input)).toList
  dash : ¬['-', '>'] <+: (clean ((Tokens.ofString input).stop.span.remainder input)).toList

/-- **A text in which cleaning fuses nothing has the same tokens when it is cleaned.** -/
theorem Unfused.outline {input : String} (h : Unfused input) :
    (Tokens.ofString (clean input)).outline = (Tokens.ofString input).outline := by
  rw [Tokens.ofString, clean, String.toList_ofList]
  exact (Tokens.laid_scan 0 input.toList).clean (List.nil_append _).symm rfl h.token h.dash 0

/-! ### Requests -/

/-- **A select expression that is rejected is not sent,** and no shape is computed from it, unless
cleaning fuses what stands apart in it: the request is refused with the message of the parser. -/
theorem rejected_select_not_sent {input : String} {e : ParseError} (h : parse input = .error e)
    (hunfused : Unfused input)
    (client : Client) (relation : String) (head : Bool) (count : Option Count) :
    ∃ refused : ParseError, refused.message = e.message ∧
      (Draft.start client relation (.select input head count)).build = .error (.select refused) ∧
      ∀ schema, (Draft.start client relation (.select input head count)).shape schema =
        .error (.parse refused) := by
  have hmessage := message_of_outline hunfused.outline
  rw [h] at hmessage
  cases hclean : parse (clean input) with
  | ok nodes =>
    rw [hclean] at hmessage
    cases hmessage
  | error refused =>
    rw [hclean] at hmessage
    have hselect : (Draft.start client relation (.select input head count)).select =
        some (clean input) := rfl
    have hfault : (Draft.start client relation (.select input head count)).fault = none := rfl
    refine ⟨refused, by simpa [Except.mapError] using hmessage, ?_, fun schema => ?_⟩
    · unfold Draft.build
      simp only [hfault, hselect, hclean]
    · unfold Draft.shape selectShape
      simp only [hselect, hclean]

/-- A list that breaks off is refused, blanks or not. -/
theorem rejected_select_not_sent_broken :
    parse "posts ( title ," = .error ⟨⟨.ended .fieldName, ⟨15, 15⟩⟩, ""⟩ ∧
      ∃ refused : ParseError,
        refused.message = (⟨⟨.ended .fieldName, ⟨15, 15⟩⟩, ""⟩ : ParseError).message ∧
        (Draft.start ⟨⟨"http", some ⟨"", "", "localhost", some 3000⟩, false, [""], none, none⟩,
          none, []⟩ "users" (.select "posts ( title ," false none)).build =
            .error (.select refused) := by
  have htokens : Tokens.ofString "posts ( title ," =
      ⟨[⟨.bare "posts", ⟨0, 5⟩⟩, ⟨.leftParen, ⟨6, 7⟩⟩, ⟨.bare "title", ⟨8, 13⟩⟩,
        ⟨.comma, ⟨14, 15⟩⟩], ⟨none, ⟨15, 15⟩⟩⟩ := by decide +kernel
  have hrefused : Parser.expression (Tokens.ofString "posts ( title ,") =
      .error ⟨.ended .fieldName, ⟨15, 15⟩⟩ := by
    rw [htokens]
    cbv
  have herror : parse "posts ( title ," = .error ⟨⟨.ended .fieldName, ⟨15, 15⟩⟩, ""⟩ :=
    parse_eq_error_iff.mpr ⟨_, hrefused, by decide +kernel⟩
  have hunfused : Unfused "posts ( title ," := by
    have hposts : clean ((Text.Span.point 5).remainder "posts ( title ,") = "(title," := by
      decide +kernel
    have htitle : clean ((Text.Span.point 13).remainder "posts ( title ,") = "," := by
      decide +kernel
    have hend : clean ((Text.Span.mk 15 15).remainder "posts ( title ,") = "" := by
      decide +kernel
    constructor
    · rw [htokens]
      simp only [List.mem_cons, List.not_mem_nil, or_false, forall_eq_or_imp, forall_eq, hposts,
        htitle]
      refine ⟨?_, fun _ _ => rfl, ?_, fun _ _ => rfl⟩
      · rintro _ ⟨rfl⟩
        decide
      · rintro _ ⟨rfl⟩
        decide
    · rw [htokens, hend]
      decide
  obtain ⟨refused, hmessage, hbuild, -⟩ := rejected_select_not_sent herror hunfused
    ⟨⟨"http", some ⟨"", "", "localhost", some 3000⟩, false, [""], none, none⟩, none, []⟩ "users"
    false none
  exact ⟨herror, refused, hmessage, hbuild⟩

/-- The blank between two names is dropped before the text is parsed, so they are sent as one. -/
theorem fused_select_sent (client : Client) (relation : String) (head : Bool)
    (count : Option Count) :
    parse "id name" = .error ⟨⟨.trailing, ⟨3, 7⟩⟩, "name"⟩ ∧
      (∃ request,
        (Draft.start client relation (.select "id name" head count)).build = .ok request) ∧
      (Draft.start client relation (.select "id name" head count)).select = some "idname" := by
  have hclean : clean "id name" = "idname" := by decide
  have hselect : (Draft.start client relation (.select "id name" head count)).select =
      some "idname" := congrArg some hclean
  have htokens : Tokens.ofString "id name" =
      ⟨[⟨.bare "id", ⟨0, 2⟩⟩, ⟨.bare "name", ⟨3, 7⟩⟩], ⟨none, ⟨7, 7⟩⟩⟩ := by decide +kernel
  have hrefused : Parser.expression (Tokens.ofString "id name") = .error ⟨.trailing, ⟨3, 7⟩⟩ := by
    rw [htokens]
    cbv
  have hfused : Tokens.ofString "idname" = ⟨[⟨.bare "idname", ⟨0, 6⟩⟩], ⟨none, ⟨6, 6⟩⟩⟩ := by
    decide +kernel
  have hsent : parse "idname" = .ok [.field (Field.column "idname") []] := by
    rw [parse, hfused]
    cbv
  have herror : parse "id name" = .error ⟨⟨.trailing, ⟨3, 7⟩⟩, "name"⟩ :=
    parse_eq_error_iff.mpr ⟨_, hrefused, by decide +kernel⟩
  refine ⟨herror, ⟨_, Draft.build_eq_ok_iff.mpr ⟨rfl, ?_, rfl⟩⟩, hselect⟩
  rw [hselect]
  rintro _ ⟨rfl⟩
  exact ⟨[.field (Field.column "idname") []], hsent⟩

end GatewayQuery.Select
