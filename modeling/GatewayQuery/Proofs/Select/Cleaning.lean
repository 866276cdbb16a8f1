/-
Cleaning keeps what an expression means.

Dropping blanks can put two tokens side by side that were apart, so cleaning is not
harmless for every text: `a b` becomes the one name `ab`.  It is harmless for the texts
that the parser takes.  There the cleaned text is the spellings of the tokens, one
right behind the other, because the quotes that cleaning counts are the quotes that
the lexer pairs; and the grammar never puts two tokens together that could be read as
one.
-/
import GatewayQuery.Proofs.Request.Build
import GatewayQuery.Proofs.Select.Recognition

namespace GatewayQuery.Select

open Token (Kind)

/-! ### Tokens and blanks -/

/-- A token stays as it is spelled, and behind it cleaning goes on outside quotes. -/
theorem cleanFrom_spelling {kind : Kind} {rest : List Char} (h : kind.Spellable) :
    cleanFrom false (kind.spelling ++ rest) = kind.spelling ++ cleanFrom false rest := by
  cases kind with
  | bare text =>
    refine cleanFrom_append fun c hc => ?_
    have hname : isNameChar c = true := h.2 c hc
    exact ⟨not_isBlank_of_isNameChar hname, ne_of_isNameChar hname (by decide)⟩
  | quoted text =>
    have hopen : cleanFrom false ('"' :: (text.toList ++ '"' :: rest)) =
        '"' :: cleanFrom true (text.toList ++ '"' :: rest) := rfl
    simp only [Kind.spelling, List.cons_append, List.append_assoc, List.nil_append]
    rw [hopen, cleanFrom_quoted h]
  | _ =>
    refine cleanFrom_append ?_
    simp only [Kind.spelling, List.mem_cons, List.not_mem_nil, or_false, forall_eq_or_imp,
      forall_eq]
    decide

/-- A text of tokens and blanks is cleaned to the spellings of the tokens. -/
theorem Spaced.cleanFrom {cs : List Char} {kinds : List Kind} (h : Spaced cs kinds) :
    cleanFrom false cs = kinds.flatMap Token.Kind.spelling := by
  induction h with
  | done hblank =>
    rw [← cleanFrom_dropBlank, hblank]
    rfl
  | token hfront hspell _ ih =>
    rw [← cleanFrom_dropBlank, hfront, cleanFrom_spelling hspell, ih, List.flatMap_cons]

theorem parse_clean {input : String} {nodes : List Node} (h : parse input = .ok nodes) :
    parse (clean input) = .ok nodes := by
  obtain ⟨kinds, hspaced, hnodes⟩ := spaced_of_parse h
  refine parse_of_spelling hnodes hspaced.spellable ?_
  rw [clean, String.toList_ofList]
  exact hspaced.cleanFrom

/-! ### Requests with a select expression -/

/-- **Cleaning keeps what an expression means.**  No text is changed by cleaning it again; and a
text that the parser takes can be selected: the request is built, the text that the draft stores is
parsed to the same nodes, and its rows have the shape that the text itself describes. -/
theorem clean_keeps_meaning :
    (∀ text, clean (clean text) = clean text) ∧
      ∀ {input : String} {nodes : List Node}, parse input = .ok nodes →
        ∀ (client : Client) (relation : String) (head : Bool) (count : Option Count)
          (schema : Schema),
          parse (clean input) = .ok nodes ∧
            (∃ request,
              (Draft.start client relation (.select input head count)).build = .ok request) ∧
            (∃ text, (Draft.start client relation (.select input head count)).select = some text ∧
              parse text = .ok nodes) ∧
            (Draft.start client relation (.select input head count)).shape schema =
              selectShape schema relation input := by
  refine ⟨clean_clean, ?_⟩
  intro input nodes h client relation head count schema
  have hclean : parse (clean input) = .ok nodes := parse_clean h
  have hselect : (Draft.start client relation (.select input head count)).select =
      some (clean input) := rfl
  have hparsed : ∀ text ∈ (Draft.start client relation (.select input head count)).select,
      ∃ nodes, parse text = .ok nodes := by
    rintro _ ⟨rfl⟩
    exact ⟨nodes, hclean⟩
  refine ⟨hclean, ?_, ⟨clean input, hselect, hclean⟩, ?_⟩
  · exact ⟨_, Draft.build_eq_ok_iff.mpr ⟨rfl, hparsed, rfl⟩⟩
  · unfold Draft.shape
    rw [hselect]
    exact selectShape_of_parse hclean h schema relation

/-- A name with a blank inside quotes keeps it, and the blanks around the other tokens go. -/
theorem clean_keeps_meaning_label :
    parse "\"a b\" : c" = .ok [.field { Field.column "c" with key := some "a b" } []] ∧
      parse (clean "\"a b\" : c") =
        .ok [.field { Field.column "c" with key := some "a b" } []] := by
  have h : parse "\"a b\" : c" = .ok [.field { Field.column "c" with key := some "a b" } []] := by
    have hinput : "\"a b\" : c".toList = ['"', 'a', ' ', 'b', '"', ' ', ':', ' ', 'c'] := rfl
    have hreads : Tokens.Reads ['"', 'a', ' ', 'b', '"', ' ', ':', ' ', 'c']
        [.quoted "a b", .colon, .bare "c"] :=
      .cons rfl rfl (.cons rfl rfl (.cons rfl rfl (.nil rfl)))
    have hnodes : Grammar.Nodes [.quoted "a b", .colon, .bare "c"]
        [.field { Field.column "c" with key := some "a b" } []] :=
      .last (.field (.column (.present rfl) rfl .done .absent .absent))
    rw [← hinput] at hreads
    exact parse_of_reads hreads hnodes
  have hkeeps := clean_keeps_meaning.2 h
    ⟨⟨"http", some ⟨"", "", "localhost", some 3000⟩, false, [""], none, none⟩, none, []⟩ "t" false
    none Schema.empty
  exact ⟨h, hkeeps.1⟩

end GatewayQuery.Select
