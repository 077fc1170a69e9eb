import FactGrammar.Proofs.Matching.Translation

namespace FactGrammar

/-- The match with other tokens put before all of its tokens. -/
def Match.behind (before : List Token) (m : Match) : Match :=
  m.moveTo (before ++ m.source) before.length

theorem Predicate.agrees_append (before tokens : List Token) (predicate : Predicate) :
    predicate.Agrees before.length (before ++ tokens) tokens := by
  intro p
  rw [List.getElem?_append_right (Nat.le_add_right _ _), Nat.add_sub_cancel_left]

namespace Match

theorem sameValues_append (before tokens : List Token) :
    SameValues before.length (before ++ tokens) tokens := by
  intro span mode
  simp only [plainValue, Span.isEmpty_shift, Span.slice_shift]

theorem tokens_behind (before : List Token) (m : Match) : (m.behind before).tokens = m.tokens :=
  Span.slice_shift before m.source m.span

theorem text_behind (before : List Token) (m : Match) : (m.behind before).text = m.text := by
  rw [text, text, tokens_behind]

end Match

namespace Grammar

variable {grammar : Grammar} {rule : Rule} {tokens : List Token}

theorem source_of_matchAt (h : grammar.matchAt rule tokens start = some m) : m.source = tokens := by
  obtain ⟨_, stop, forest, _, rfl⟩ := eval_of_matchAt h
  rfl

theorem text_of_matchAt (h : grammar.matchAt rule tokens start = some m) :
    m.text = Token.join Token.text (m.span.slice tokens) := by
  rw [Match.text, Match.tokens, source_of_matchAt h]

theorem behind_of_matchAt (before : List Token) (h : grammar.matchAt rule tokens start = some m) :
    m.behind before = m.moveTo (before ++ tokens) before.length := by
  rw [Match.behind, source_of_matchAt h]

theorem fact_behind (before : List Token) (h : grammar.matchAt rule tokens start = some m) :
    (m.behind before).fact = m.fact := by
  rw [behind_of_matchAt before h]
  exact Match.fact_moveTo (Match.sameValues_append before tokens) h

theorem matchAt_append (grammar : Grammar) (rule : Rule) (before tokens : List Token)
    (start : Nat) :
    grammar.matchAt rule (before ++ tokens) (before.length + start) =
      (grammar.matchAt rule tokens start).map (.behind before) := by
  have hagrees (p : Predicate) := p.agrees_append before tokens
  rw [matchAt_shift List.length_append (fun p _ => hagrees p) (fun p _ => hagrees p)]
  apply Option.map_congr
  intro m hm
  exact (behind_of_matchAt before hm).symm

theorem findFrom_append (grammar : Grammar) (rule : Rule) (before tokens : List Token) :
    grammar.findFrom rule (before ++ tokens) before.length =
      (grammar.findAll rule tokens).map (.behind before) := by
  have hagrees (p : Predicate) := p.agrees_append before tokens
  have hmatch (start : Nat) : grammar.matchAt rule (before ++ tokens) (before.length + start) =
      (grammar.matchAt rule tokens start).map (.moveTo (before ++ tokens) before.length) :=
    matchAt_shift List.length_append (fun p _ => hagrees p) (fun p _ => hagrees p) start
  have hfound := findFrom_shift List.length_append (fun _ => rfl) hmatch 0
  rw [Nat.add_zero] at hfound
  rw [hfound, findAll]
  apply List.map_congr_left
  intro m hm
  have hsome := (findFrom_leftmost grammar rule tokens 0).isMatch m hm
  exact (behind_of_matchAt before hsome).symm

theorem findAll_tail (h : grammar.findAll rule tokens = m :: rest) :
    rest = (grammar.findAll rule (tokens.drop m.span.stop)).map
      (.behind (tokens.take m.span.stop)) := by
  have hall := findFrom_leftmost grammar rule tokens 0
  rw [← findAll, h] at hall
  have hstop := hall.stop_le m List.mem_cons_self
  have hfound := findFrom_append grammar rule (tokens.take m.span.stop) (tokens.drop m.span.stop)
  rw [List.take_append_drop, List.length_take_of_le hstop] at hfound
  rw [← hfound]
  exact hall.of_cons.eq_findFrom

/-- A rule matches behind other tokens where it matches without them, with the same tokens, text and
fact; and the matches after the first one are those of the tokens behind it. -/
theorem matching_is_local (grammar : Grammar) (rule : Rule) (before tokens : List Token) :
    (∀ start, grammar.matchAt rule (before ++ tokens) (before.length + start) =
        (grammar.matchAt rule tokens start).map (.behind before)) ∧
      (∀ start m, grammar.matchAt rule tokens start = some m →
        (m.behind before).tokens = m.tokens ∧ (m.behind before).text = m.text ∧
          (m.behind before).fact = m.fact) ∧
      ∀ m rest, grammar.findAll rule tokens = m :: rest →
        rest = (grammar.findAll rule (tokens.drop m.span.stop)).map
          (.behind (tokens.take m.span.stop)) := by
  refine ⟨matchAt_append grammar rule before tokens, ?_, fun m rest => findAll_tail⟩
  intro start m hm
  exact ⟨m.tokens_behind before, m.text_behind before, fact_behind before hm⟩

theorem matching_is_local_parentheses :
    let first : Match := ⟨parentheses, ⟨0, 5⟩,
      [⟨.fact listSchema, ⟨0, 5⟩, 1⟩, ⟨.fact listSchema, ⟨2, 4⟩, 0⟩]⟩
    let second : Match := ⟨parentheses ++ parentheses, ⟨5, 10⟩,
      [⟨.fact listSchema, ⟨5, 10⟩, 1⟩, ⟨.fact listSchema, ⟨7, 9⟩, 0⟩]⟩
    parenthesized.matchAt (.reference "list") (parentheses ++ parentheses) 5 = some second ∧
      second.tokens = first.tokens ∧ second.text = first.text ∧ second.fact = first.fact ∧
      (parenthesized.findAll (.reference "list") (parentheses ++ parentheses)).tail =
        (parenthesized.findAll (.reference "list") parentheses).map (.behind parentheses) := by
  intro first second
  have hfirst : parenthesized.matchAt (.reference "list") parentheses 0 = some first := by
    rw [matchAt_eq_ite, if_neg (by decide), eval_parentheses]
    rfl
  have htwice : parenthesized.eval (parentheses ++ parentheses) maxDepth (.reference "list") 0 =
      some (5, .cons (.fact listSchema) ⟨0, 5⟩
        (.cons (.fact listSchema) ⟨2, 4⟩ .nil .nil) .nil) := by
    decide +kernel
  have hleading : parenthesized.matchAt (.reference "list") (parentheses ++ parentheses) 0 =
      some ⟨parentheses ++ parentheses, first.span, first.captures⟩ := by
    rw [matchAt_eq_ite, if_neg (by decide), htwice]
    rfl
  have hfound := findFrom_of_some (by decide) hleading
  obtain ⟨hmatch, hsame, _⟩ :=
    matching_is_local parenthesized (.reference "list") parentheses parentheses
  have hsecond := hmatch 0
  rw [hfirst] at hsecond
  obtain ⟨htokens, htext, hfact⟩ := hsame 0 first hfirst
  refine ⟨hsecond, htokens, htext, hfact, ?_⟩
  obtain ⟨_, _, htail⟩ :=
    matching_is_local parenthesized (.reference "list") [] (parentheses ++ parentheses)
  rw [findAll, hfound]
  exact htail _ _ hfound

end Grammar

end FactGrammar
