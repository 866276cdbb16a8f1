/-
What the parser takes is spelled by the grammar.

Every step takes tokens from the front whose kinds the grammar relates to the value
that the step gives.  The parts without recursion come first, each by its own cases;
the four steps that call each other follow, by induction on the number of tokens.
-/
import GatewayQuery.Proofs.Select.Grammar
import GatewayQuery.Proofs.Select.Steps

namespace GatewayQuery.Select

namespace Parser

open Token (Kind)
open Grammar

variable {stop : Stop}

/-- The tokens begin with some whose kinds are related to a value, and others follow. -/
def Begins {α : Type} (G : List Kind → α → Prop) (ts : List Token) (value : α)
    (rest : List Token) : Prop :=
  ∃ front, ts = front ++ rest ∧ G (front.map Token.kind) value

/-! ### Parts without nodes -/

theorem castPart_ok {ts rest : List Token} {cast : Option String}
    (h : Gives (castPart stop ts) cast rest) : Begins Cast ts cast rest := by
  rcases castPart_cases h with ⟨rfl, rfl, -⟩ | ⟨span, token, type, rfl, hname, rfl⟩
  · exact ⟨[], rfl, .absent⟩
  · exact ⟨[⟨.doubleColon, span⟩, token], rfl, .present hname⟩

theorem pathPart_ok {ts rest : List Token} {path : JsonPath}
    (h : Gives (pathPart stop ts) path rest) : Begins Steps ts path rest := by
  rcases pathPart_cases h with ⟨rfl, rfl, -⟩ |
    ⟨span, token, key, after, more, rfl, hname, hmore, rfl⟩ | ⟨span, token, key, rfl, hname, rfl⟩
  · exact ⟨[], rfl, .done⟩
  · obtain ⟨front, rfl, hsteps⟩ := pathPart_ok hmore
    exact ⟨⟨.arrow, span⟩ :: token :: front, rfl, .json hname hsteps⟩
  · exact ⟨[⟨.doubleArrow, span⟩, token], rfl, .text hname⟩
termination_by ts.length

theorem aggregatePart_ok {ts rest : List Token} {aggregate : Option Aggregate}
    (h : Gives (aggregatePart stop ts) aggregate rest) : Begins Summary ts aggregate rest := by
  rcases aggregatePart_cases h with ⟨rfl, rfl, -⟩ |
    ⟨dot, token, opened, closed, after, function, cast, rfl, hname, hcast, rfl⟩
  · exact ⟨[], rfl, .absent⟩
  · obtain ⟨front, rfl, htype⟩ := castPart_ok hcast
    exact ⟨⟨.dot, dot⟩ :: token :: ⟨.leftParen, opened⟩ :: ⟨.rightParen, closed⟩ :: front, rfl,
      .present hname htype⟩

theorem keyPart_ok (ts : List Token) : Begins Key ts (keyPart ts).1 (keyPart ts).2.val := by
  rcases keyPart_cases ts with ⟨token, span, rest, key, rfl, hname, hkey, hrest⟩ |
    ⟨hkey, hrest, -⟩
  · rw [hkey, hrest]
    exact ⟨[token, ⟨.colon, span⟩], rfl, .present hname⟩
  · rw [hkey, hrest]
    exact ⟨[], rfl, .absent⟩

/-- Once a hint or a kind of join is given, only kinds of join are taken. -/
theorem hintPart_joins {hints out : Hints} {ts rest : List Token}
    (hdone : hints.joined = true ∨ hints.hint ≠ Option.none) (hmarked : hints.marked = true)
    (h : Gives (hintPart stop hints ts) out rest) :
    ∃ front innerJoin, ts = front ++ rest ∧ Joins (front.map Token.kind) innerJoin ∧
      out.hint = hints.hint ∧ out.innerJoin = (hints.innerJoin || innerJoin) ∧
      out.marked = true := by
  rcases hintPart_cases h with
    ⟨rfl, rfl, -⟩ | ⟨span, token, after, word, next, rfl, -, hadd, hnext⟩
  · exact ⟨[], false, rfl, .done, rfl, by simp, hmarked⟩
  · rcases Hints.add_cases hadd with ⟨hkind, rfl⟩ | ⟨hkind, rfl⟩ | ⟨-, -, hhint, hjoined, -⟩
    · obtain ⟨front, innerJoin, rfl, hjoins, hhint, hinner, hmark⟩ :=
        hintPart_joins (.inl rfl) rfl hnext
      refine ⟨⟨.bang, span⟩ :: token :: front, true, rfl, ?_, hhint, by simp [hinner], hmark⟩
      simp only [List.map_cons, hkind]
      exact .inner hjoins
    · obtain ⟨front, innerJoin, rfl, hjoins, hhint, hinner, hmark⟩ :=
        hintPart_joins (.inl rfl) rfl hnext
      refine ⟨⟨.bang, span⟩ :: token :: front, innerJoin, rfl, ?_, hhint, hinner, hmark⟩
      simp only [List.map_cons, hkind]
      exact .left hjoins
    · simp [hhint, hjoined] at hdone
termination_by ts.length

theorem hintPart_ok {out : Hints} {ts rest : List Token}
    (h : Gives (hintPart stop .none ts) out rest) :
    ∃ front, ts = front ++ rest ∧
      Grammar.Hints (front.map Token.kind) out.hint out.innerJoin ∧
      (out.marked = false → front = []) := by
  rcases hintPart_cases h with
    ⟨rfl, rfl, -⟩ | ⟨span, token, after, word, next, rfl, hname, hadd, hnext⟩
  · exact ⟨[], rfl, .absent .done, fun _ => rfl⟩
  have hdone : next.joined = true ∨ next.hint ≠ Option.none := by
    rcases Hints.add_cases hadd with ⟨-, rfl⟩ | ⟨-, rfl⟩ | ⟨-, -, -, -, rfl⟩ <;> simp
  have hmarked : next.marked = true := by
    rcases Hints.add_cases hadd with ⟨-, rfl⟩ | ⟨-, rfl⟩ | ⟨-, -, -, -, rfl⟩ <;> rfl
  obtain ⟨front, innerJoin, rfl, hjoins, hhint, hinnerJoin, hmark⟩ :=
    hintPart_joins hdone hmarked hnext
  refine ⟨⟨.bang, span⟩ :: token :: front, rfl, ?_, by simp [hmark]⟩
  rw [hhint, hinnerJoin]
  simp only [List.map_cons]
  rcases Hints.add_cases hadd with ⟨hkind, rfl⟩ | ⟨hkind, rfl⟩ | ⟨hinner, hleft, -, -, rfl⟩
  · rw [hkind]
    exact .absent (.inner hjoins)
  · rw [hkind]
    exact .absent (.left hjoins)
  · exact .present hname hinner hleft hjoins

theorem columnPart_ok {key : Option String} {column : String} {ts rest : List Token}
    {field : Field} (h : Gives (columnPart stop key column ts) field rest) :
    ∃ steps cast summary path type aggregate, ts = steps ++ (cast ++ (summary ++ rest)) ∧
      Steps (steps.map Token.kind) path ∧ Cast (cast.map Token.kind) type ∧
      Summary (summary.map Token.kind) aggregate ∧
      field = ⟨column, key, none, type, aggregate,
        if path.keys.isEmpty then none else some path, false, false⟩ := by
  obtain ⟨path, afterPath, type, afterCast, aggregate, hpath, hcast, haggregate, rfl⟩ :=
    columnPart_iff.mp h
  obtain ⟨steps, rfl, hsteps⟩ := pathPart_ok hpath
  obtain ⟨cast, rfl, htype⟩ := castPart_ok hcast
  obtain ⟨summary, rfl, hsummary⟩ := aggregatePart_ok haggregate
  exact ⟨steps, cast, summary, path, type, aggregate, rfl, hsteps, htype, hsummary, rfl⟩

/-! ### Items, nodes and lists of nodes -/

mutual

theorem item_ok {ts rest : List Token} {field : Field} {children : List Node}
    (h : Gives (item stop ts) (field, children) rest) :
    ∃ front, ts = front ++ rest ∧ Item (front.map Token.kind) field children := by
  obtain ⟨key, hts, hkey⟩ := keyPart_ok ts
  rcases item_cases h with ⟨start, type, hcount, hcast, rfl, rfl⟩ |
    ⟨text, after, hints, span, inner, hcount, hname, hhints, hchildren, rfl⟩ |
    ⟨text, after, hints, more, hname, hhints, hmarked, -, hcolumn, rfl⟩
  · obtain ⟨word, opened, closed, hstart⟩ := countPart_some hcount
    obtain ⟨cast, hafter, hcast⟩ := castPart_ok hcast
    refine ⟨key ++ ⟨.bare "count", word⟩ :: ⟨.leftParen, opened⟩ :: ⟨.rightParen, closed⟩ :: cast,
      hts.trans (by rw [hstart, hafter]; simp), ?_⟩
    simp only [List.map_append, List.map_cons]
    exact .rowCount hkey hcast
  · have hshorter := item_open_shorter hname hhints
    obtain ⟨token, hstart, hkind⟩ := name_ok hname
    obtain ⟨marks, rfl, hmarks, -⟩ := hintPart_ok hhints
    obtain ⟨below, close, rfl, hbelow⟩ := childList_ok hchildren
    refine ⟨key ++ token :: (marks ++ ⟨.leftParen, span⟩ :: (below ++ [⟨.rightParen, close⟩])),
      hts.trans (by rw [hstart]; simp), ?_⟩
    simp only [List.map_append, List.map_cons, List.map_nil]
    refine .embedding hkey hkind hmarks hbelow ?_
    rintro ⟨hword, hunmarked, hempty⟩
    obtain ⟨kind, word⟩ := token
    subst hword
    refine countPart_none hcount word span close rest ?_
    simp [hstart, List.map_eq_nil_iff.mp hunmarked, List.map_eq_nil_iff.mp hempty]
  · obtain ⟨token, hstart, hkind⟩ := name_ok hname
    obtain ⟨marks, rfl, -, hunmarked⟩ := hintPart_ok hhints
    obtain rfl := hunmarked hmarked
    obtain ⟨steps, cast, summary, path, type, aggregate, rfl, hsteps, hcast, hsummary, rfl⟩ :=
      columnPart_ok hcolumn
    refine ⟨key ++ token :: (steps ++ (cast ++ summary)), hts.trans (by rw [hstart]; simp), ?_⟩
    simp only [List.map_append, List.map_cons]
    exact .column hkey hkind hsteps hcast hsummary
termination_by (ts.length, 0)

theorem childList_ok {ts rest : List Token} {nodes : List Node}
    (h : Gives (childList stop ts) nodes rest) :
    ∃ front span, ts = front ++ ⟨.rightParen, span⟩ :: rest ∧
      Children (front.map Token.kind) nodes := by
  rcases childList_cases h with ⟨span, rfl, rfl⟩ | ⟨-, span, hnodes⟩
  · exact ⟨[], span, rfl, .absent⟩
  · obtain ⟨front, hfront, hnodes⟩ := nodeList_ok hnodes
    exact ⟨front, span, hfront, .present hnodes⟩
termination_by (ts.length, 3)

theorem node_ok {ts rest : List Token} {found : Node} (h : Gives (node stop ts) found rest) :
    Begins One ts found rest := by
  rcases node_cases h with ⟨span, rfl, rfl⟩ |
    ⟨span, after, target, children, rfl, hitem, hembedded, rfl⟩ | ⟨field, children, -, hitem, rfl⟩
  · exact ⟨[⟨.star, span⟩], rfl, .star⟩
  · obtain ⟨front, rfl, htarget⟩ := item_ok hitem
    exact ⟨⟨.ellipsis, span⟩ :: front, rfl, .spread htarget hembedded⟩
  · obtain ⟨front, hfront, hfield⟩ := item_ok hitem
    exact ⟨front, hfront, .field hfield⟩
termination_by (ts.length, 1)

theorem nodeList_ok {ts rest : List Token} {nodes : List Node}
    (h : Gives (nodeList stop ts) nodes rest) : Begins Nodes ts nodes rest := by
  rcases nodeList_cases h with ⟨found, hnode, rfl, -⟩ |
    ⟨found, span, more, others, hnode, hothers, rfl⟩
  · obtain ⟨front, hfront, hone⟩ := node_ok hnode
    exact ⟨front, hfront, .last hone⟩
  · have hshorter := node_comma_shorter hnode
    obtain ⟨front, hfront, hone⟩ := node_ok hnode
    obtain ⟨back, rfl, hnodes⟩ := nodeList_ok hothers
    refine ⟨front ++ ⟨.comma, span⟩ :: back, hfront.trans (by simp), ?_⟩
    simp only [List.map_append, List.map_cons]
    exact .more hone hnodes
termination_by (ts.length, 2)

end

end Parser

end GatewayQuery.Select
