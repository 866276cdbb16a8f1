/-
Whitespace between tokens is insignificant.

Blanks that are put between two tokens change neither the kinds of the tokens nor the fault that
stops them, which `Proofs/Select/Layout.lean` says.  It is left to say that parsing sees nothing
else.  For a text that is accepted the grammar says that, since it knows no places.  For a text that
is refused it is the parser itself that is stuck on the same lexeme again.
-/
import GatewayQuery.Proofs.Select.Recognition
import GatewayQuery.Proofs.Select.Viability

namespace GatewayQuery.Select

namespace Tokens

theorem lexemes_kinds (tokens : Tokens) :
    tokens.lexemes.map Prod.fst =
      tokens.tokens.map (fun token => .token token.kind) ++ [tokens.stop.lexeme] := by
  simp [lexemes]

theorem lexemes_kinds_of_outline {tokens other : Tokens} (h : other.outline = tokens.outline) :
    other.lexemes.map Prod.fst = tokens.lexemes.map Prod.fst := by
  obtain ⟨hkinds, hfault⟩ := Prod.mk.inj h
  have hlexemes := congrArg (List.map Lexeme.token) hkinds
  rw [List.map_map, List.map_map] at hlexemes
  rw [lexemes_kinds, lexemes_kinds, Stop.lexeme, Stop.lexeme, hfault]
  exact congrArg (· ++ _) hlexemes

end Tokens

namespace Parser

/-- Tokens that look the same are the same expression, or they are refused for the same cause. -/
theorem expression_of_outline {tokens other : Tokens} (h : other.outline = tokens.outline) :
    (expression other).mapError Refusal.cause = (expression tokens).mapError Refusal.cause := by
  cases htokens : expression tokens with
  | ok nodes =>
    obtain ⟨hnone, hall⟩ := expression_eq_ok_iff.mp htokens
    obtain ⟨hkinds, hfault⟩ := Prod.mk.inj h
    have hnodes : expression other = .ok nodes := by
      refine expression_eq_ok_iff.mpr ⟨hfault.trans hnone, nodeList_all_iff.mpr ?_⟩
      rw [hkinds]
      exact nodeList_all_iff.mp hall
    rw [hnodes]
  | error refusal =>
    obtain ⟨used, found, span, after, -, htokens, -, hfails⟩ := expression_refused htokens
    have hbegin : used.map (fun token => .token token.kind) ++ [found] <+:
        other.lexemes.map Prod.fst := by
      rw [Tokens.lexemes_kinds_of_outline h, htokens, List.map_append, List.map_map, List.map_cons]
      exact ⟨after.map Prod.fst, by simp [Function.comp_def]⟩
    obtain ⟨span', hother⟩ := hfails other hbegin
    rw [hother]
    rfl

end Parser

theorem message_of_outline {input other : String}
    (h : (Tokens.ofString other).outline = (Tokens.ofString input).outline) :
    (parse other).mapError ParseError.message = (parse input).mapError ParseError.message := by
  have hmessage : ∀ text, (parse text).mapError ParseError.message =
      ((Parser.expression (Tokens.ofString text)).mapError Refusal.cause).mapError
        Refusal.Cause.message := by
    intro text
    unfold parse
    cases Parser.expression (Tokens.ofString text) <;> rfl
  rw [hmessage, hmessage, Parser.expression_of_outline h]

/-- **Blanks between two tokens leave the outcome of parsing as it is,** the nodes of an expression
that is accepted and the message for one that is refused. -/
theorem parse_insert_blanks (front blanks back : String)
    (hblanks : ∀ c ∈ blanks.toList, Text.isBlank c = true)
    (hbetween : (Tokens.ofString (front ++ back)).Between (Text.byteLength front.toList)) :
    (parse (front ++ blanks ++ back)).mapError ParseError.message =
      (parse (front ++ back)).mapError ParseError.message := by
  have hlaid := Tokens.laid_scan 0 (front ++ back).toList
  refine message_of_outline ?_
  have houtline := hlaid.insert (String.toList_append ..) hblanks
    (by rw [Nat.zero_add]; exact hbetween) 0
  rw [Tokens.ofString, String.toList_append, String.toList_append, List.append_assoc]
  exact houtline

/-- Two dots stay two dots with a wide blank and a line break between them. -/
theorem parse_insert_blanks_dots :
    (Tokens.ofString ("a." ++ ".b")).Between (Text.byteLength "a.".toList) ∧
      (parse ("a." ++ "\u2003\n" ++ ".b")).mapError ParseError.message =
        (parse ("a." ++ ".b")).mapError ParseError.message := by
  have hbetween : (Tokens.ofString ("a." ++ ".b")).Between (Text.byteLength "a.".toList) := by
    have htokens : Tokens.ofString ("a." ++ ".b") =
        ⟨[⟨.bare "a", ⟨0, 1⟩⟩, ⟨.dot, ⟨1, 2⟩⟩, ⟨.dot, ⟨2, 3⟩⟩, ⟨.bare "b", ⟨3, 4⟩⟩],
          ⟨none, ⟨4, 4⟩⟩⟩ := by decide +kernel
    rw [htokens]
    unfold Tokens.Between
    decide
  have hblanks : ∀ c ∈ "\u2003\n".toList, Text.isBlank c = true := List.all_eq_true.mp (by decide)
  exact ⟨hbetween, parse_insert_blanks "a." "\u2003\n" ".b" hblanks hbetween⟩

end GatewayQuery.Select
