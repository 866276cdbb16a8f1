/-
The parser is the grammar.

A text is a select expression exactly if all of it is tokens and the grammar derives
a list of nodes from their kinds, and parsing it gives that list.
-/
import GatewayQuery.Proofs.Select.Completeness
import GatewayQuery.Proofs.Select.Soundness
import GatewayQuery.Proofs.Select.Spelling

namespace GatewayQuery.Select

open Grammar

namespace Parser

variable {stop : Stop}

/-- All tokens are taken as a list of nodes exactly if the grammar derives the list from them. -/
theorem nodeList_all_iff {ts : List Token} {nodes : List Node} :
    Gives (nodeList stop ts) nodes [] ↔ Nodes (ts.map Token.kind) nodes := by
  constructor
  · intro h
    obtain ⟨front, hts, hnodes⟩ := nodeList_ok h
    rw [List.append_nil] at hts
    rwa [hts]
  · intro h
    have hall : Gives (nodeList stop (ts ++ [])) nodes [] := nodeList_of h rfl (by simp [Closes])
    rwa [List.append_nil] at hall

theorem expression_eq_ok_iff {tokens : Tokens} {nodes : List Node} :
    expression tokens = .ok nodes ↔
      tokens.stop.fault = none ∧ Gives (nodeList tokens.stop tokens.tokens) nodes [] := by
  unfold expression
  split
  · rename_i htokens hfault
    constructor
    · intro h
      cases h
    rintro ⟨-, h⟩
    rw [htokens] at h
    obtain ⟨front, hfront, hnodes⟩ := nodeList_ok h
    obtain ⟨kind, rest, hkinds, -⟩ := hnodes.head
    rw [List.append_nil] at hfront
    rw [← hfront] at hkinds
    cases hkinds
  · split
    · rename_i error herror
      constructor
      · intro h
        cases h
      · rintro ⟨-, _, h⟩
        rw [h] at herror
        cases herror
    · rename_i found rest hfound
      split
      · rename_i token more hrest
        constructor
        · intro h
          cases h
        · rintro ⟨-, _, h⟩
          rw [h] at hfound
          cases hfound
          cases hrest
      · rename_i fault hrest hfault
        constructor
        · intro h
          cases h
        · rintro ⟨hnone, -⟩
          rw [hnone] at hfault
          cases hfault
      · rename_i hrest hfault
        obtain ⟨rest, hlt⟩ := rest
        subst hrest
        constructor
        · rintro ⟨rfl⟩
          exact ⟨hfault, hlt, hfound⟩
        · rintro ⟨-, _, h⟩
          rw [h] at hfound
          cases hfound
          rfl

end Parser

theorem parse_eq_ok_iff_expression {input : String} {nodes : List Node} :
    parse input = .ok nodes ↔ Parser.expression (Tokens.ofString input) = .ok nodes := by
  unfold parse
  cases Parser.expression (Tokens.ofString input) <;> simp [Except.mapError]

theorem parse_eq_error_iff {input : String} {e : ParseError} :
    parse input = .error e ↔
      ∃ refusal, Parser.expression (Tokens.ofString input) = .error refusal ∧
        ParseError.of input refusal = e := by
  unfold parse
  cases Parser.expression (Tokens.ofString input) <;> simp [Except.mapError]

theorem nodes_of_parse {input : String} {nodes : List Node} (h : parse input = .ok nodes) :
    (Tokens.ofString input).stop.fault = none ∧
      Nodes ((Tokens.ofString input).tokens.map Token.kind) nodes := by
  obtain ⟨hfault, hall⟩ := Parser.expression_eq_ok_iff.mp (parse_eq_ok_iff_expression.mp h)
  exact ⟨hfault, Parser.nodeList_all_iff.mp hall⟩

theorem parse_of_nodes {input : String} {nodes : List Node}
    (hfault : (Tokens.ofString input).stop.fault = none)
    (h : Nodes ((Tokens.ofString input).tokens.map Token.kind) nodes) :
    parse input = .ok nodes :=
  parse_eq_ok_iff_expression.mpr
    (Parser.expression_eq_ok_iff.mpr ⟨hfault, Parser.nodeList_all_iff.mpr h⟩)

theorem parse_of_reads {input : String} {kinds : List Token.Kind} {nodes : List Node}
    (h : Tokens.Reads input.toList kinds) (hnodes : Nodes kinds nodes) :
    parse input = .ok nodes := by
  obtain ⟨hfault, hkinds⟩ := h 0
  refine parse_of_nodes hfault ?_
  rw [Tokens.ofString, hkinds]
  exact hnodes

theorem spaced_of_parse {input : String} {nodes : List Node} (h : parse input = .ok nodes) :
    ∃ kinds, Spaced input.toList kinds ∧ Nodes kinds nodes := by
  obtain ⟨hfault, hnodes⟩ := nodes_of_parse h
  exact ⟨_, Tokens.scan_spaced 0 input.toList hfault, hnodes⟩

/-- The kinds that derive a list may be spelled without blanks, since no two of them fuse. -/
theorem parse_of_spelling {input : String} {kinds : List Token.Kind} {nodes : List Node}
    (h : Nodes kinds nodes) (hspell : AllSpellable kinds)
    (hinput : input.toList = kinds.flatMap Token.Kind.spelling) : parse input = .ok nodes := by
  have hapart : Apart (kinds ++ []) := h.apart behind_nil
  rw [List.append_nil] at hapart
  have hreads := Tokens.reads_spelling hspell hapart
  rw [← hinput] at hreads
  exact parse_of_reads hreads h

/-- **The parser accepts exactly what the grammar derives, and builds the tree it derives.** -/
theorem parse_eq_ok_iff_derives (input : String) (nodes : List Node) :
    parse input = .ok nodes ↔
      (Tokens.ofString input).stop.fault = none ∧
        Nodes ((Tokens.ofString input).tokens.map Token.kind) nodes := by
  constructor
  · exact nodes_of_parse
  · rintro ⟨hfault, h⟩
    exact parse_of_nodes hfault h

end GatewayQuery.Select
