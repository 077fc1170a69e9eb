import FactGrammar.Proofs.Academic.Phrases
import FactGrammar.Proofs.Interpretation.Forest

namespace FactGrammar.Academic.Speciality

open Recognizer

variable {tokens : List Token} {p : Nat}

def isInteger (token : Token) : Bool :=
  token.kind == .integer

def isPoint (token : Token) : Bool :=
  token.text == "."

def endsSentence (token : Token) : Bool :=
  sentenceEnds.contains token.text

/-- The spans of the parts of a speciality. After a code there is always a span for the hyphen,
which is empty where no hyphen stands. -/
structure Layout where
  span : Span
  code : Option Span
  hyphen : Option Span
  name : Span

namespace Layout

def parts (layout : Layout) : CaptureForest :=
  .ofSpan? (.field schema.name "code" .raw) layout.code ++
    (.ofSpan? (.field schema.name "hyphen" .raw) layout.hyphen ++
      .ofSpan? (.field schema.name "name" .raw) layout.name)

def forest (layout : Layout) : CaptureForest :=
  .cons (.fact schema) layout.span layout.parts .nil

def value (tokens : List Token) (layout : Layout) : Speciality where
  code := layout.code.bind (Span.text? Token.text tokens)
  hyphen := layout.hyphen.bind (Span.text? Token.text tokens)
  name := Token.join Token.text (layout.name.slice tokens)

def record (tokens : List Token) (layout : Layout) : Record :=
  ⟨schema.name, [("code", .ofText? (layout.value tokens).code),
    ("hyphen", .ofText? (layout.value tokens).hyphen), ("name", .text (layout.value tokens).name)]⟩

theorem resolve_parts (layout : Layout) (h : layout.name.IsStretch tokens) :
    layout.parts.resolve tokens schema = .ok (layout.record tokens) := by
  obtain ⟨span, code, hyphen, name⟩ := layout
  rw [parts, CaptureForest.resolve]
  simp only [CaptureForest.collect_append, CaptureForest.collect_ofSpan?, Match.plainValue_raw,
    Span.text?_of_lt _ _ h.start_lt]
  cases code <;> cases hyphen <;> rfl

theorem ofRecord_record (tokens : List Token) (layout : Layout) :
    ofRecord (layout.record tokens) = .ok (layout.value tokens) := by
  rw [record]
  obtain ⟨code, hyphen, name⟩ := layout.value tokens
  cases code <;> cases hyphen <;> rfl

theorem interpret_forest (layout : Layout) (span : Span) (h : layout.name.IsStretch tokens) :
    Match.interpret Speciality ⟨tokens, span, layout.forest.flatten⟩ =
      .ok (layout.value tokens) := by
  rw [forest, Match.interpret_fact, resolve_parts layout h]
  exact ofRecord_record tokens layout

end Layout

def afterCode (tokens : List Token) (p : Nat) : Option Nat := do
  let first ← afterSome isInteger tokens p
  let second ← (afterToken isPoint tokens first).bind (afterSome isInteger tokens)
  (afterToken isPoint tokens second).bind (afterSome isInteger tokens)

/-- The spans of a code and of the hyphen behind it. -/
def locateCode (tokens : List Token) (p : Nat) : Option (Span × Span) :=
  (afterCode tokens p).map fun stop =>
    (⟨p, stop⟩, ⟨stop, (afterToken isHyphen tokens stop).getD stop⟩)

def locateName (tokens : List Token) (p : Nat) : Option (Span × Nat) :=
  ((quotedSpan tokens p).map fun name => (name, name.stop + 1)).or
    ((afterSome (!endsSentence ·) tokens p).map fun stop => (⟨p, stop⟩, stop))

def locate (tokens : List Token) (p : Nat) : Option Layout := do
  let code := locateCode tokens p
  let (name, stop) ← locateName tokens (afterSpan? p (code.map (·.2)))
  some ⟨⟨p, stop⟩, code.map (·.1), code.map (·.2), name⟩

theorem skips_code (follow : String → Recognizer tokens) :
    ((Rule.sequence [integers, point, integers, point, integers]).recognizer follow).Skips
      (afterCode tokens) := by
  have hints : (integers.recognizer follow).Skips (afterSome isInteger tokens) :=
    Skips.oneOrMore_token
  have hpoint : (point.recognizer follow).Skips (afterToken isPoint tokens) :=
    Skips.token
  rw [Rule.recognizer_sequence, Rule.inTurn_cons, Rule.inTurn_cons, Rule.inTurn_cons,
    Rule.inTurn_cons, Rule.inTurn_singleton]
  intro p
  rw [hints.andThen (hpoint.andThen (hints.andThen (hpoint.andThen hints))) p, afterCode]
  simp only [Option.bind_eq_bind, Option.bind_assoc]

theorem run_code (budget p : Nat) :
    (codeRule.recognizer (grammar.follow tokens (budget + 1))).run p =
      (locateCode tokens p).map fun o =>
        (o.2.stop, .ofSpan? (.field schema.name "code" .raw) (some o.1) ++
          .ofSpan? (.field schema.name "hyphen" .raw) (some o.2)) := by
  rw [codeRule, Rule.recognizer_sequence, Rule.inTurn_cons, Rule.inTurn_singleton, run_andThen,
    Rule.recognizer_interpreted, (skips_code _).run_interpreted, locateCode]
  cases afterCode tokens p with
  | none => rfl
  | some stop =>
    rw [Option.map_some, Option.bind_some, Rule.recognizer_interpreted, Rule.recognizer_optional,
      Rule.recognizer_reference, follow_hyphen, Skips.token.optional.run_interpreted]
    rfl

theorem run_name (budget p : Nat) :
    ((Rule.alternative [quotedName, bareName]).recognizer (grammar.follow tokens (budget + 1))).run
        p =
      (locateName tokens p).map fun o =>
        (o.2, .ofSpan? (.field schema.name "name" .raw) (some o.1)) := by
  have hbare : (bareName.recognizer (grammar.follow tokens (budget + 1))).run p =
      (afterSome (!endsSentence ·) tokens p).map fun stop =>
        (stop, .ofSpan? (.field schema.name "name" .raw) (some ⟨p, stop⟩)) := by
    rw [bareName, Rule.recognizer_interpreted, Rule.oneOrMore, Rule.recognizer_repetition,
      Rule.recognizer_negation, recognizer_ofTexts, negation_token]
    exact Skips.oneOrMore_token.run_interpreted _ p
  rw [Rule.recognizer_alternative, Rule.firstOf_cons, Rule.firstOf_singleton, run_orElse, hbare,
    quotedName, run_quotedPart, locateName, Option.map_or, Option.map_map, Option.map_map]
  rfl

/-- The rule for specialities matches where one is located, and captures its layout. -/
theorem run_rule (budget p : Nat) :
    (rule.recognizer (grammar.follow tokens (budget + 1))).run p =
      (locate tokens p).map fun layout => (layout.span.stop, layout.forest) := by
  rw [rule, Rule.recognizer_interpreted, run_interpreted, Rule.recognizer_sequence,
    Rule.inTurn_cons, Rule.inTurn_singleton, run_andThen, Rule.recognizer_optional, run_optional,
    run_code, locate]
  cases locateCode tokens p with
  | none =>
    rw [Option.map_none, Option.getD_none, Option.bind_some, run_name]
    dsimp only [Option.map_none, afterSpan?]
    cases locateName tokens p <;> rfl
  | some code =>
    rw [Option.map_some, Option.getD_some, Option.bind_some, run_name]
    dsimp only [Option.map_some, afterSpan?]
    cases locateName tokens code.2.stop <;> rfl

theorem start_of_locate {layout : Layout} (h : locate tokens p = some layout) :
    layout.span.start = p := by
  obtain ⟨_, _, he⟩ := Option.bind_eq_some_iff.1 h
  cases he
  rfl

theorem run_reference (budget p : Nat) :
    (grammar.follow tokens (budget + 2) "speciality").run p =
      (locate tokens p).map fun layout => (layout.span.stop, layout.forest) := by
  have hname : grammar.get? "speciality" = some rule := rfl
  rw [Grammar.follow_of_defined hname]
  exact run_rule budget p

theorem run_interpreted_reference (budget : Nat) (binding : Binding) (p : Nat) :
    ((grammar.follow tokens (budget + 2) "speciality").interpreted binding).run p =
      (locate tokens p).map fun layout =>
        (layout.span.stop, .cons binding layout.span layout.forest .nil) :=
  run_interpreted_located (run_reference budget p) (fun _ => start_of_locate) binding

theorem isStretch_of_locateName {name : Span} (h : locateName tokens p = some (name, stop)) :
    name.IsStretch tokens := by
  rcases Option.or_eq_some_iff.1 h with h | ⟨_, h⟩
  · obtain ⟨span, hspan, he⟩ := Option.map_eq_some_iff.1 h
    cases he
    exact isStretch_of_quotedSpan hspan
  · obtain ⟨last, hlast, he⟩ := Option.map_eq_some_iff.1 h
    cases he
    exact isStretch_of_afterSome hlast

theorem isStretch_of_locate {layout : Layout} (h : locate tokens p = some layout) :
    layout.name.IsStretch tokens := by
  obtain ⟨⟨name, stop⟩, hname, he⟩ := Option.bind_eq_some_iff.1 h
  cases he
  exact isStretch_of_locateName hname

theorem eval_reference (tokens : List Token) (p : Nat) :
    grammar.eval tokens maxDepth (.reference "speciality") p =
      (locate tokens p).map fun layout => (layout.span.stop, layout.forest) :=
  (grammar.eval_reference tokens _ _ p).trans (run_reference 254 p)

theorem interpret_of_matchAt
    (h : grammar.matchAt (.reference "speciality") tokens start = some m) :
    ∃ layout, locate tokens start = some layout ∧
      m.interpret Speciality = .ok (layout.value tokens) := by
  obtain ⟨layout, hlayout, rfl⟩ := Grammar.layout_of_matchAt (eval_reference tokens start) h
  exact ⟨layout, hlayout, layout.interpret_forest _ (isStretch_of_locate hlayout)⟩

end FactGrammar.Academic.Speciality
