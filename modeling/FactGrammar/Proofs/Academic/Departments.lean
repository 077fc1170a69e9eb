import FactGrammar.Proofs.Academic.Phrases
import FactGrammar.Proofs.Interpretation.Forest

namespace FactGrammar.Academic.Department

open Recognizer

variable {tokens : List Token} {p : Nat}

def isUnit (token : Token) : Bool :=
  units.contains token.normal

def isPosition (token : Token) : Bool :=
  positions.contains token.normal

/-- The spans of the parts of an affiliation. -/
structure Layout where
  definition : Span
  position : Option Span

namespace Layout

def span (layout : Layout) : Span :=
  ⟨layout.definition.start, afterSpan? layout.definition.stop layout.position⟩

def forest (layout : Layout) : CaptureForest :=
  .cons (.fact schema) layout.span
    (.ofSpan? (.field schema.name "definition" .raw) layout.definition ++
      .ofSpan? (.field schema.name "position" .normal) layout.position)
    .nil

def value (tokens : List Token) (layout : Layout) : Department where
  definition := Token.join Token.text (layout.definition.slice tokens)
  position := layout.position.bind (Span.text? Token.normal tokens)

theorem interpret_forest (layout : Layout) (span : Span)
    (h : layout.definition.IsStretch tokens) :
    Match.interpret Department ⟨tokens, span, layout.forest.flatten⟩ =
      .ok (layout.value tokens) := by
  obtain ⟨definition, position⟩ := layout
  rw [forest, Match.interpret_fact, CaptureForest.resolve, CaptureForest.collect_append]
  simp only [CaptureForest.collect_ofSpan?, Match.plainValue_raw, Match.plainValue_normal,
    Span.text?_of_lt _ _ h.start_lt]
  cases position with
  | none => rfl
  | some s =>
    simp only [value, Option.bind_some]
    cases s.text? Token.normal tokens <;> rfl

end Layout

def afterDefinition (tokens : List Token) (p : Nat) : Option Nat :=
  (afterToken isUnit tokens p).bind (afterQuoted tokens)

def positionSpan (tokens : List Token) (p : Nat) : Option Span :=
  (afterToken isHyphen tokens p).bind (tokenSpan isPosition tokens)

def locate (tokens : List Token) (p : Nat) : Option Layout := do
  let stop ← afterDefinition tokens p
  some ⟨⟨p, stop⟩, positionSpan tokens stop⟩

theorem skips_definition (budget : Nat) :
    ((Rule.sequence [.literal (.ofNormals units), .reference "quoted"]).recognizer
      (grammar.follow tokens (budget + 2))).Skips (afterDefinition tokens) := by
  rw [Rule.recognizer_sequence, Rule.inTurn_cons, Rule.inTurn_singleton, recognizer_ofNormals]
  exact Skips.token.andThen (skips_quoted budget)

theorem run_position (budget : Nat) (binding : Binding) (p : Nat) :
    ((Rule.sequence [.reference "hyphen",
        .interpreted (.literal (.ofNormals positions)) binding]).recognizer
          (grammar.follow tokens (budget + 1))).run p =
      (positionSpan tokens p).map fun span => (span.stop, .ofSpan? binding (some span)) := by
  rw [Rule.recognizer_sequence, Rule.inTurn_cons, Rule.inTurn_singleton, Rule.recognizer_reference,
    follow_hyphen, Skips.token.run_andThen, positionSpan, Option.map_bind]
  congr 1
  funext start
  rw [Rule.recognizer_interpreted, recognizer_ofNormals]
  exact run_interpreted_token _

/-- The department rule matches where an affiliation is located, and captures its layout. -/
theorem run_rule (budget p : Nat) :
    (rule.recognizer (grammar.follow tokens (budget + 2))).run p =
      (locate tokens p).map fun layout => (layout.span.stop, layout.forest) := by
  rw [rule, Rule.recognizer_interpreted, run_interpreted, Rule.recognizer_sequence,
    Rule.inTurn_cons, Rule.inTurn_singleton, run_andThen, Rule.recognizer_interpreted,
    (skips_definition budget).run_interpreted, locate]
  cases afterDefinition tokens p with
  | none => rfl
  | some stop =>
    rw [Option.map_some, Option.bind_some, Rule.recognizer_optional, run_optional, run_position]
    simp only [Option.bind_eq_bind, Option.bind_some]
    cases positionSpan tokens stop <;> rfl

theorem isStretch_of_locate {layout : Layout} (h : locate tokens p = some layout) :
    layout.definition.IsStretch tokens := by
  obtain ⟨stop, hstop, he⟩ := Option.bind_eq_some_iff.1 h
  cases he
  obtain ⟨start, hstart, hquoted⟩ := Option.bind_eq_some_iff.1 hstop
  have hlt := (lt_of_afterToken hstart).1
  have hquoted := lt_of_afterQuoted hquoted
  exact ⟨Nat.lt_trans hlt hquoted.1, hquoted.2⟩

theorem interpret_of_matchAt (h : grammar.matchAt rule tokens start = some m) :
    ∃ layout, locate tokens start = some layout ∧
      m.interpret Department = .ok (layout.value tokens) := by
  obtain ⟨layout, hlayout, rfl⟩ := Grammar.layout_of_matchAt (run_rule 254 start) h
  exact ⟨layout, hlayout, layout.interpret_forest _ (isStretch_of_locate hlayout)⟩

end FactGrammar.Academic.Department
