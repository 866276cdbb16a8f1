/-
An error points at the first lexeme that does not fit.

The lexemes before it begin an expression that the parser accepts, so the error does not come too
late; with the lexeme itself they begin none, so it does not come too early.  The end of the text
counts as a lexeme, and so does a fault: no accepted text has one.

Spreads are left out.  That a target is no embedding is known at its end only, and the error then
points back to the three dots.
-/
import GatewayQuery.Proofs.Select.Whitespace

namespace GatewayQuery.Select

open Token (Kind)

/-- The lexemes with which a select expression begins, its end being the last of them. -/
def Viable (lexemes : List Lexeme) : Prop :=
  ∃ text nodes, parse text = .ok nodes ∧
    lexemes <+: (Tokens.ofString text).lexemes.map Prod.fst

/-- What the grammar can complete is completed by a text that the parser accepts. -/
theorem viable_of_starts {kinds : List Kind} (hspell : AllSpellable kinds)
    (h : Parser.Starts (fun kinds => ∃ nodes, Grammar.Nodes kinds nodes) kinds) :
    Viable (kinds.map Lexeme.token) := by
  obtain ⟨more, hmore, nodes, hnodes⟩ := h
  have hall : AllSpellable (kinds ++ more) := allSpellable_append.mpr ⟨hspell, hmore⟩
  have hapart : Grammar.Apart ((kinds ++ more) ++ []) := hnodes.apart Grammar.behind_nil
  rw [List.append_nil] at hapart
  obtain ⟨-, hkinds⟩ := Tokens.reads_spelling hall hapart 0
  refine ⟨String.ofList ((kinds ++ more).flatMap Kind.spelling), nodes,
    parse_of_spelling hnodes hall String.toList_ofList, ?_⟩
  have hlexemes := congrArg (List.map Lexeme.token) hkinds
  rw [List.map_map, List.map_append] at hlexemes
  rw [Tokens.lexemes_kinds, Tokens.ofString, String.toList_ofList]
  refine List.IsPrefix.trans ?_ (List.prefix_append _ _)
  exact ⟨more.map Lexeme.token, hlexemes.symm⟩

/-! ### Errors -/

/-- **A parse error points at the first lexeme that does not fit,** where no spread is: the lexemes
that begin before it begin a select expression, with it they begin none, and the remainder of the
error is the text from its first byte on. -/
theorem parse_error_at_misfit {input : String} {e : ParseError} (h : parse input = .error e)
    (hspread : .ellipsis ∉ (Tokens.ofString input).tokens.map Token.kind) :
    ∃ before found after,
      (Tokens.ofString input).lexemes = before ++ (found, e.span) :: after ∧
      (∀ lexeme ∈ before, lexeme.2.start < e.span.start) ∧
      (∀ lexeme ∈ after, e.span.start < lexeme.2.start) ∧
      Viable (before.map Prod.fst) ∧ ¬Viable (before.map Prod.fst ++ [found]) ∧
      ∃ front, input = front ++ e.remainder ∧ Text.byteLength front.toList = e.span.start := by
  obtain ⟨refusal, herror, rfl⟩ := parse_eq_error_iff.mp h
  obtain ⟨used, found, span, after, hused, hlexemes, hplace, hfails⟩ :=
    Parser.expression_refused herror
  have hlaid := Tokens.laid_scan 0 input.toList
  have hkinds := (hused.map Token.kind).subset
  obtain ⟨rfl, hstarts⟩ := hplace fun hmem => hspread (hkinds hmem)
  have hbefore : (used.map fun token => (Lexeme.token token.kind, token.span)).map Prod.fst =
      (used.map Token.kind).map Lexeme.token := by
    rw [List.map_map, List.map_map]
    rfl
  have hplaces := hlaid.increasing.2
  rw [← Tokens.ofString, hlexemes, List.pairwise_append, List.pairwise_cons] at hplaces
  obtain ⟨-, ⟨hafter, -⟩, hearlier⟩ := hplaces
  refine ⟨used.map fun token => (.token token.kind, token.span), found, after, hlexemes,
    fun lexeme hmem => hearlier lexeme hmem _ List.mem_cons_self, hafter, ?_, ?_, ?_⟩
  · rw [hbefore]
    exact viable_of_starts (fun kind hmem => hlaid.spellable kind (hkinds hmem)) hstarts
  · rintro ⟨text, nodes, hparse, hbegin⟩
    rw [hbefore, List.map_map] at hbegin
    obtain ⟨span, herror⟩ := hfails (Tokens.ofString text) hbegin
    rw [parse_eq_ok_iff_expression.mp hparse] at herror
    cases herror
  · have hmem : (found, refusal.span) ∈ (Tokens.scan 0 input.toList).lexemes := by
      rw [← Tokens.ofString, hlexemes]
      exact List.mem_append_right _ List.mem_cons_self
    obtain ⟨front, back, hinput, hstart⟩ := hlaid.boundary _ hmem
    rw [Nat.zero_add] at hstart
    refine ⟨String.ofList front, ?_, by rw [String.toList_ofList]; exact hstart.symm⟩
    have hremainder := Text.remainder_append front back refusal.span.stop hinput
    rw [← hstart] at hremainder
    have hleft : (ParseError.of input refusal).remainder = String.ofList back := hremainder
    rw [hleft, ← String.ofList_append, ← hinput, String.ofList_toList]

/-- A key with no name behind its colon is refused at the comma. -/
theorem parse_error_at_misfit_key :
    parse "id,name:,x" = .error ⟨⟨.mismatch .fieldName .comma, ⟨8, 9⟩⟩, ",x"⟩ ∧
      ∃ before found after,
        (Tokens.ofString "id,name:,x").lexemes = before ++ (found, ⟨8, 9⟩) :: after ∧
          Viable (before.map Prod.fst) ∧ ¬Viable (before.map Prod.fst ++ [found]) := by
  have htokens : Tokens.ofString "id,name:,x" =
      ⟨[⟨.bare "id", ⟨0, 2⟩⟩, ⟨.comma, ⟨2, 3⟩⟩, ⟨.bare "name", ⟨3, 7⟩⟩, ⟨.colon, ⟨7, 8⟩⟩,
        ⟨.comma, ⟨8, 9⟩⟩, ⟨.bare "x", ⟨9, 10⟩⟩], ⟨none, ⟨10, 10⟩⟩⟩ := by decide +kernel
  have hrefused : Parser.expression (Tokens.ofString "id,name:,x") =
      .error ⟨.mismatch .fieldName .comma, ⟨8, 9⟩⟩ := by
    rw [htokens]
    cbv
  have herror : parse "id,name:,x" =
      .error ⟨⟨.mismatch .fieldName .comma, ⟨8, 9⟩⟩, ",x"⟩ :=
    parse_eq_error_iff.mpr ⟨_, hrefused, by decide +kernel⟩
  obtain ⟨before, found, after, hlexemes, -, -, hviable, hmisfit, -⟩ :=
    parse_error_at_misfit herror (by rw [htokens]; decide)
  exact ⟨herror, before, found, after, hlexemes, hviable, hmisfit⟩

end GatewayQuery.Select
