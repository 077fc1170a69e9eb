import FactGrammar.Proofs.Academic.Phrases
import FactGrammar.Proofs.Interpretation.Forest

namespace FactGrammar.Academic.AcademicDegree

open Recognizer

variable {tokens : List Token} {p : Nat}

def isDegree (token : Token) : Bool :=
  token.normal == "кандидат" || token.normal == "доктор"

def isSciences (token : Token) : Bool :=
  token.text == sciences

/-- The spans of the parts of a degree, which follow one another. -/
structure Layout where
  degree : Span
  branch : Span
  suffix : Span

namespace Layout

def span (layout : Layout) : Span :=
  ⟨layout.degree.start, layout.suffix.stop⟩

def branchForest (layout : Layout) : CaptureForest :=
  .cons (.fact Branch.schema) layout.branch
    (.ofSpan? (.field Branch.schema.name "name" .normal) layout.branch) .nil

def parts (layout : Layout) : CaptureForest :=
  .ofSpan? (.field schema.name "degree" .normal) layout.degree ++
    (.cons (.field schema.name "branch" .nested) layout.branch layout.branchForest .nil ++
      .ofSpan? (.field schema.name "suffix" .raw) layout.suffix)

def forest (layout : Layout) : CaptureForest :=
  .cons (.fact schema) layout.span layout.parts .nil

def value (tokens : List Token) (layout : Layout) : AcademicDegree where
  degree := Token.join Token.normal (layout.degree.slice tokens)
  branch := ⟨Token.join Token.normal (layout.branch.slice tokens)⟩
  suffix := Token.join Token.text (layout.suffix.slice tokens)

def record (tokens : List Token) (layout : Layout) : Record :=
  ⟨schema.name, [("degree", .text (layout.value tokens).degree),
    ("branch", .record ⟨Branch.schema.name, [("name", .text (layout.value tokens).branch.name)]⟩),
    ("suffix", .text (layout.value tokens).suffix)]⟩

/-- No part of a degree is empty. -/
structure Filled (layout : Layout) (tokens : List Token) : Prop where
  degree : layout.degree.IsStretch tokens
  branch : layout.branch.IsStretch tokens
  suffix : layout.suffix.IsStretch tokens

theorem resolve_parts (layout : Layout) (h : layout.Filled tokens) :
    layout.parts.resolve tokens schema = .ok (layout.record tokens) := by
  have hbranch : (CaptureForest.ofSpan? (.field Branch.schema.name "name" .normal)
      layout.branch).resolve tokens Branch.schema =
        .ok ⟨Branch.schema.name, [("name", .text (layout.value tokens).branch.name)]⟩ := by
    rw [CaptureForest.resolve, CaptureForest.collect_ofSpan?]
    simp only [Match.plainValue_normal, Span.text?_of_lt _ _ h.branch.start_lt]
    rfl
  rw [parts, CaptureForest.resolve, branchForest]
  simp only [CaptureForest.collect_append, CaptureForest.collect_ofSpan?,
    CaptureForest.collect_nested, Match.plainValue_raw, Match.plainValue_normal,
    Span.text?_of_lt _ _ h.degree.start_lt, Span.text?_of_lt _ _ h.suffix.start_lt, hbranch]
  rfl

theorem interpret_forest (layout : Layout) (span : Span) (h : layout.Filled tokens) :
    Match.interpret AcademicDegree ⟨tokens, span, layout.forest.flatten⟩ =
      .ok (layout.value tokens) := by
  rw [forest, Match.interpret_fact, resolve_parts layout h]
  rfl

end Layout

def locate (tokens : List Token) (p : Nat) : Option Layout := do
  let degree ← tokenSpan isDegree tokens p
  let last ← afterSome (!isSciences ·) tokens degree.stop
  let suffix ← tokenSpan isSciences tokens last
  some ⟨degree, ⟨degree.stop, last⟩, suffix⟩

theorem recognizer_degreeWord (follow : String → Recognizer tokens) :
    degreeWord.recognizer follow = token isDegree := by
  rw [degreeWord, Rule.recognizer_alternative, Rule.firstOf_cons, Rule.firstOf_singleton]
  exact orElse_token _ _

theorem run_branch (follow : String → Recognizer tokens) (p : Nat) :
    (branchRule.recognizer follow).run p =
      (afterSome (!isSciences ·) tokens p).map fun last =>
        (last, .cons (.fact Branch.schema) ⟨p, last⟩
          (.ofSpan? (.field Branch.schema.name "name" .normal) (some ⟨p, last⟩)) .nil) := by
  have hrun : ((Rule.negation (.literal (.eq sciences))).oneOrMore.recognizer follow).Skips
      (afterSome (!isSciences ·) tokens) := by
    rw [Rule.oneOrMore, Rule.recognizer_repetition, Rule.recognizer_negation]
    change ((token isSciences).negation.repetition 1 none).Skips _
    rw [negation_token]
    exact .oneOrMore_token
  rw [branchRule, Rule.recognizer_interpreted, run_interpreted, Rule.recognizer_interpreted,
    hrun.run_interpreted, Option.map_map]
  rfl

/-- The rule for degrees matches where one is located, and captures its layout. -/
theorem run_rule (follow : String → Recognizer tokens) (p : Nat) :
    (rule.recognizer follow).run p =
      (locate tokens p).map fun layout => (layout.span.stop, layout.forest) := by
  have hsuffix : (Rule.literal (.eq sciences)).recognizer follow = token isSciences := rfl
  rw [rule, Rule.recognizer_interpreted, run_interpreted, Rule.recognizer_sequence,
    Rule.inTurn_cons, Rule.inTurn_cons, Rule.inTurn_singleton, run_andThen,
    Rule.recognizer_interpreted, recognizer_degreeWord, run_interpreted_token, locate]
  cases hdegree : tokenSpan isDegree tokens p with
  | none => rfl
  | some degree =>
    obtain ⟨_, rfl⟩ := tokenSpan_eq_some_iff.1 hdegree
    rw [Option.map_some, Option.bind_some, run_andThen, Rule.recognizer_interpreted,
      run_interpreted, run_branch]
    simp only [Option.bind_eq_bind, Option.bind_some]
    cases afterSome (!isSciences ·) tokens (p + 1) with
    | none => rfl
    | some last =>
      rw [Option.map_some, Option.map_some, Option.bind_some, Option.bind_some,
        Rule.recognizer_interpreted, hsuffix, run_interpreted_token]
      cases tokenSpan isSciences tokens last <;> rfl

theorem start_of_locate {layout : Layout} (h : locate tokens p = some layout) :
    layout.span.start = p := by
  obtain ⟨degree, hdegree, h⟩ := Option.bind_eq_some_iff.1 h
  obtain ⟨last, _, h⟩ := Option.bind_eq_some_iff.1 h
  obtain ⟨suffix, _, he⟩ := Option.bind_eq_some_iff.1 h
  cases he
  obtain ⟨_, rfl⟩ := tokenSpan_eq_some_iff.1 hdegree
  rfl

theorem run_reference (budget p : Nat) :
    (grammar.follow tokens (budget + 1) "academic_degree").run p =
      (locate tokens p).map fun layout => (layout.span.stop, layout.forest) := by
  have hname : grammar.get? "academic_degree" = some rule := rfl
  rw [Grammar.follow_of_defined hname]
  exact run_rule _ p

theorem run_interpreted_reference (budget : Nat) (binding : Binding) (p : Nat) :
    ((grammar.follow tokens (budget + 1) "academic_degree").interpreted binding).run p =
      (locate tokens p).map fun layout =>
        (layout.span.stop, .cons binding layout.span layout.forest .nil) :=
  run_interpreted_located (run_reference budget p) (fun _ => start_of_locate) binding

theorem filled_of_locate {layout : Layout} (h : locate tokens p = some layout) :
    layout.Filled tokens := by
  obtain ⟨degree, hdegree, h⟩ := Option.bind_eq_some_iff.1 h
  obtain ⟨last, hlast, h⟩ := Option.bind_eq_some_iff.1 h
  obtain ⟨suffix, hsuffix, he⟩ := Option.bind_eq_some_iff.1 h
  cases he
  exact ⟨isStretch_of_tokenSpan hdegree, isStretch_of_afterSome hlast,
    isStretch_of_tokenSpan hsuffix⟩

theorem eval_reference (tokens : List Token) (p : Nat) :
    grammar.eval tokens maxDepth (.reference "academic_degree") p =
      (locate tokens p).map fun layout => (layout.span.stop, layout.forest) :=
  (grammar.eval_reference tokens _ _ p).trans (run_reference 255 p)

theorem interpret_of_matchAt
    (h : grammar.matchAt (.reference "academic_degree") tokens start = some m) :
    ∃ layout, locate tokens start = some layout ∧
      m.interpret AcademicDegree = .ok (layout.value tokens) := by
  obtain ⟨layout, hlayout, rfl⟩ := Grammar.layout_of_matchAt (eval_reference tokens start) h
  exact ⟨layout, hlayout, layout.interpret_forest _ (filled_of_locate hlayout)⟩

end FactGrammar.Academic.AcademicDegree
