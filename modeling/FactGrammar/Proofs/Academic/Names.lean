import FactGrammar.Academic.PersonName
import FactGrammar.Proofs.Interpretation.Forest
import FactGrammar.Proofs.Matching.TokenRun

namespace FactGrammar.Academic.PersonName

open Recognizer

variable {tokens : List Token} {follow : String → Recognizer tokens} {p : Nat}

def isPart (gram : String) (token : Token) : Bool :=
  token.hasGram gram && isCapitalized token.text

/-- The spans of the parts of a name in their order; the surname stands before or behind the
others. -/
structure Layout where
  surnameBefore : Option Span
  first : Option Span
  middle : Option Span
  surnameBehind : Option Span

namespace Layout

def parts (layout : Layout) : CaptureForest :=
  .ofSpan? (.field schema.name "last" .raw) layout.surnameBefore ++
    (.ofSpan? (.field schema.name "first" .raw) layout.first ++
      (.ofSpan? (.field schema.name "middle" .raw) layout.middle ++
        .ofSpan? (.field schema.name "last" .raw) layout.surnameBehind))

def stop (p : Nat) (layout : Layout) : Nat :=
  afterSpan? (afterSpan? (afterSpan? (afterSpan? p layout.surnameBefore) layout.first)
    layout.middle) layout.surnameBehind

def forest (p : Nat) (layout : Layout) : CaptureForest :=
  .cons (.fact schema) ⟨p, layout.stop p⟩ layout.parts .nil

def value (tokens : List Token) (layout : Layout) : PersonName where
  first := layout.first.bind (Span.text? Token.text tokens)
  middle := layout.middle.bind (Span.text? Token.text tokens)
  last := (layout.surnameBehind.or layout.surnameBefore).bind (Span.text? Token.text tokens)

theorem collect_parts (tokens : List Token) (layout : Layout) :
    layout.parts.collect tokens schema (.empty schema) =
      .ok ⟨schema.name, [("first", .ofText? (layout.value tokens).first),
        ("middle", .ofText? (layout.value tokens).middle),
        ("last", .ofText? (layout.value tokens).last)]⟩ := by
  obtain ⟨before, first, middle, behind⟩ := layout
  simp only [parts, CaptureForest.collect_append, CaptureForest.collect_ofSpan?,
    Match.plainValue_raw]
  cases before <;> cases first <;> cases middle <;> cases behind <;> rfl

theorem interpret_forest (layout : Layout) (span : Span) (p : Nat) :
    Match.interpret PersonName ⟨tokens, span, (layout.forest p).flatten⟩ =
      .ok (layout.value tokens) := by
  rw [forest, Match.interpret_fact, CaptureForest.resolve, collect_parts]
  obtain ⟨first, middle, last⟩ := layout.value tokens
  cases first <;> cases middle <;> cases last <;> rfl

end Layout

def locateSurnameFirst (tokens : List Token) (p : Nat) : Option Layout := do
  let last ← tokenSpan (isPart "Surn") tokens p
  let first ← tokenSpan (isPart "Name") tokens last.stop
  some ⟨last, first, tokenSpan (isPart "Patr") tokens first.stop, none⟩

def locateNameFirst (tokens : List Token) (p : Nat) : Option Layout := do
  let first ← tokenSpan (isPart "Name") tokens p
  let middle := tokenSpan (isPart "Patr") tokens first.stop
  some ⟨none, first, middle, tokenSpan (isPart "Surn") tokens (afterSpan? first.stop middle)⟩

def locateSurname (tokens : List Token) (p : Nat) : Option Layout := do
  let last ← tokenSpan (isPart "Surn") tokens p
  some ⟨last, none, none, none⟩

def locate (tokens : List Token) (p : Nat) : Option Layout :=
  (locateSurnameFirst tokens p).or ((locateNameFirst tokens p).or (locateSurname tokens p))

theorem recognizer_part (gram : String) (binding : Binding) :
    (part gram binding).recognizer follow = (token (isPart gram)).interpreted binding := by
  refine congrArg (·.interpreted binding) (congrArg token (funext fun t => ?_))
  change (t.hasGram gram && (isCapitalized t.text && true)) = isPart gram t
  rw [Bool.and_true, isPart]

theorem run_surnameFirst (p : Nat) :
    ((Rule.sequence [lastPart, firstPart, .optional middlePart]).recognizer follow).run p =
      (locateSurnameFirst tokens p).map fun layout => (layout.stop p, layout.parts) := by
  rw [Rule.recognizer_sequence, Rule.inTurn_cons, Rule.inTurn_cons, Rule.inTurn_singleton,
    Rule.recognizer_optional, lastPart, firstPart, middlePart, recognizer_part, recognizer_part,
    recognizer_part, run_andThen, run_interpreted_token, locateSurnameFirst]
  cases tokenSpan (isPart "Surn") tokens p with
  | none => rfl
  | some last =>
    rw [Option.map_some, Option.bind_some, run_andThen, run_interpreted_token]
    simp only [Option.bind_eq_bind, Option.bind_some]
    cases tokenSpan (isPart "Name") tokens last.stop with
    | none => rfl
    | some first =>
      rw [Option.map_some, Option.bind_some, run_optional_token, Option.bind_some]
      cases tokenSpan (isPart "Patr") tokens first.stop <;> rfl

theorem run_nameFirst (p : Nat) :
    ((Rule.sequence [firstPart, .optional middlePart, .optional lastPart]).recognizer follow).run
        p = (locateNameFirst tokens p).map fun layout => (layout.stop p, layout.parts) := by
  rw [Rule.recognizer_sequence, Rule.inTurn_cons, Rule.inTurn_cons, Rule.inTurn_singleton,
    Rule.recognizer_optional, Rule.recognizer_optional, lastPart, firstPart, middlePart,
    recognizer_part, recognizer_part, recognizer_part, run_andThen, run_interpreted_token,
    locateNameFirst]
  cases tokenSpan (isPart "Name") tokens p with
  | none => rfl
  | some first =>
    rw [Option.map_some, Option.bind_some, run_andThen, run_optional_token, Option.bind_some,
      run_optional_token]
    rfl

theorem run_surname (p : Nat) :
    (lastPart.recognizer follow).run p =
      (locateSurname tokens p).map fun layout => (layout.stop p, layout.parts) := by
  rw [lastPart, recognizer_part, run_interpreted_token, locateSurname]
  cases tokenSpan (isPart "Surn") tokens p <;> rfl

/-- The rule for names matches where a name is located, and captures its layout. -/
theorem run_rule (p : Nat) :
    (rule.recognizer follow).run p =
      (locate tokens p).map fun layout => (layout.stop p, layout.forest p) := by
  rw [rule, Rule.recognizer_interpreted, run_interpreted, Rule.recognizer_alternative,
    Rule.firstOf_cons, Rule.firstOf_cons, Rule.firstOf_singleton, run_orElse, run_orElse,
    run_surnameFirst, run_nameFirst, run_surname, ← Option.map_or, ← Option.map_or, ← locate,
    Option.map_map]
  rfl

theorem isStretch_of_locate {layout : Layout} {span : Span} (h : locate tokens p = some layout)
    (hfirst : layout.first = some span) : span.IsStretch tokens := by
  rcases Option.or_eq_some_iff.1 h with h | ⟨_, h⟩
  · obtain ⟨last, _, h⟩ := Option.bind_eq_some_iff.1 h
    obtain ⟨first, hspan, he⟩ := Option.bind_eq_some_iff.1 h
    cases he
    cases hfirst
    exact isStretch_of_tokenSpan hspan
  · rcases Option.or_eq_some_iff.1 h with h | ⟨_, h⟩
    · obtain ⟨first, hspan, he⟩ := Option.bind_eq_some_iff.1 h
      cases he
      cases hfirst
      exact isStretch_of_tokenSpan hspan
    · obtain ⟨last, _, he⟩ := Option.bind_eq_some_iff.1 h
      cases he
      cases hfirst

theorem interpret_of_matchAt {grammar : Grammar}
    (h : grammar.matchAt rule tokens start = some m) :
    ∃ layout, locate tokens start = some layout ∧
      m.interpret PersonName = .ok (layout.value tokens) := by
  obtain ⟨layout, hlayout, rfl⟩ := Grammar.layout_of_matchAt (run_rule start) h
  exact ⟨layout, hlayout, layout.interpret_forest _ start⟩

end FactGrammar.Academic.PersonName
