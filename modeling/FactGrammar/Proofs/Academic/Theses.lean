import FactGrammar.Proofs.Academic.Degrees
import FactGrammar.Proofs.Academic.Specialities

namespace FactGrammar.Academic.Thesis

open Recognizer

variable {tokens : List Token} {p : Nat}

def isKind (token : Token) : Bool :=
  kinds.contains token.normal

def isThesis (token : Token) : Bool :=
  token.normal == "диссертация"

def isDirection (token : Token) : Bool :=
  directions.contains token.normal

def introducesDirection (token : Token) : Bool :=
  token.text == "по"

/-- Whether the search for a degree stops at a token. -/
def stopsSearch (token : Token) : Bool :=
  (degreeWords.map Text.lowercase).contains (Text.lowercase token.text) ||
    Speciality.endsSentence token

structure Tail where
  degree : Option AcademicDegree.Layout
  speciality : Speciality.Layout

/-- The spans of the parts of a thesis. The span of the kind is empty where no kind is named. -/
structure Layout where
  kind : Span
  title : Span
  tail : Option Tail

namespace Tail

def degreeForest : Option AcademicDegree.Layout → CaptureForest
  | some degree => .cons (.field schema.name "degree" .nested) degree.span degree.forest .nil
  | none => .nil

def forest (tail : Tail) : CaptureForest :=
  degreeForest tail.degree ++
    .cons (.field schema.name "speciality" .nested) tail.speciality.span tail.speciality.forest .nil

/-- No part is empty that a fact must have. -/
structure Filled (tail : Tail) (tokens : List Token) : Prop where
  degree : ∀ degree, tail.degree = some degree → degree.Filled tokens
  speciality : tail.speciality.name.IsStretch tokens

end Tail

namespace Layout

def headSpan (layout : Layout) : Span :=
  ⟨layout.kind.start, layout.title.stop + 1⟩

def headForest (layout : Layout) : CaptureForest :=
  .cons (.fact schema) layout.headSpan
    (.ofSpan? (.field schema.name "kind" .raw) layout.kind ++
      .ofSpan? (.field schema.name "title" .raw) layout.title)
    .nil

def span (layout : Layout) : Span :=
  ⟨layout.kind.start, match layout.tail with
    | some tail => tail.speciality.span.stop
    | none => layout.title.stop + 1⟩

def parts (layout : Layout) : CaptureForest :=
  layout.headForest ++ match layout.tail with
    | some tail => tail.forest
    | none => .nil

def forest (layout : Layout) : CaptureForest :=
  .cons (.fact schema) layout.span layout.parts .nil

def value (tokens : List Token) (layout : Layout) : Thesis where
  kind := layout.kind.text? Token.text tokens
  title := Token.join Token.text (layout.title.slice tokens)
  speciality := layout.tail.map fun tail => tail.speciality.value tokens
  degree := (layout.tail.bind Tail.degree).map fun degree => degree.value tokens

def record (tokens : List Token) (layout : Layout) : Record :=
  ⟨schema.name, [("kind", .ofText? (layout.value tokens).kind),
    ("title", .text (layout.value tokens).title),
    ("speciality", match layout.tail with
      | some tail => .record (tail.speciality.record tokens)
      | none => .absent),
    ("degree", match layout.tail.bind Tail.degree with
      | some degree => .record (degree.record tokens)
      | none => .absent)]⟩

structure Filled (layout : Layout) (tokens : List Token) : Prop where
  title : layout.title.IsStretch tokens
  tail : ∀ tail, layout.tail = some tail → tail.Filled tokens

theorem collect_headForest (layout : Layout) (h : layout.title.IsStretch tokens) :
    layout.headForest.collect tokens schema (.empty schema) =
      .ok ⟨schema.name, [("kind", .ofText? (layout.value tokens).kind),
        ("title", .text (layout.value tokens).title), ("speciality", .absent),
        ("degree", .absent)]⟩ := by
  rw [headForest, CaptureForest.collect_fact]
  simp only [CaptureForest.collect_append, CaptureForest.collect_ofSpan?, Match.plainValue_raw,
    Span.text?_of_lt _ _ h.start_lt]
  rfl

theorem resolve_parts (layout : Layout) (h : layout.Filled tokens) :
    layout.parts.resolve tokens schema = .ok (layout.record tokens) := by
  rw [parts, CaptureForest.resolve, CaptureForest.collect_append, collect_headForest layout h.title,
    record]
  generalize layout.value tokens = value
  obtain ⟨kind, title, tail⟩ := layout
  obtain ⟨kind', title', _, _⟩ := value
  cases tail with
  | none => cases kind' <;> rfl
  | some tail =>
    obtain ⟨degree, speciality⟩ := tail
    obtain ⟨hdegree, hspeciality⟩ := h.tail _ rfl
    have hspeciality := Speciality.Layout.resolve_parts speciality hspeciality
    simp only [Tail.forest, CaptureForest.collect_append, Speciality.Layout.forest,
      CaptureForest.collect_nested, hspeciality]
    cases degree with
    | none => cases kind' <;> rfl
    | some degree =>
      have hdegree := AcademicDegree.Layout.resolve_parts degree (hdegree _ rfl)
      simp only [Tail.degreeForest, AcademicDegree.Layout.forest, CaptureForest.collect_nested,
        hdegree]
      cases kind' <;> rfl

theorem ofRecord_record (tokens : List Token) (layout : Layout) :
    ofRecord (layout.record tokens) = .ok (layout.value tokens) := by
  have htitle : (layout.record tokens).requireText schema.name "title" =
      .ok (layout.value tokens).title := by
    cases (layout.value tokens).kind <;> rfl
  have hkind : (layout.record tokens).text? "kind" = (layout.value tokens).kind := by
    rw [record]
    cases (layout.value tokens).kind <;> rfl
  have hspeciality : (layout.record tokens).record? "speciality" =
      layout.tail.map fun tail => tail.speciality.record tokens := by
    rw [record]
    cases layout.tail <;> rfl
  have hdegree : (layout.record tokens).record? "degree" =
      (layout.tail.bind Tail.degree).map fun degree => degree.record tokens := by
    rw [record]
    cases layout.tail.bind Tail.degree <;> rfl
  rw [ofRecord, htitle, hkind, hspeciality, hdegree, value]
  cases layout.tail with
  | none => rfl
  | some tail =>
    obtain ⟨degree, speciality⟩ := tail
    simp only [Option.map_some, Option.mapM_some, Speciality.Layout.ofRecord_record]
    cases degree <;> rfl

theorem interpret_forest (layout : Layout) (span : Span) (h : layout.Filled tokens) :
    Match.interpret Thesis ⟨tokens, span, layout.forest.flatten⟩ = .ok (layout.value tokens) := by
  rw [forest, Match.interpret_fact, resolve_parts layout h]
  exact ofRecord_record tokens layout

end Layout

def locateHead (tokens : List Token) (p : Nat) : Option (Span × Span) := do
  let start := (afterToken isKind tokens p).getD p
  let announced ← afterToken isThesis tokens start
  let title ← quotedSpan tokens (afterRun (!isQuote ·) tokens announced)
  some (⟨p, start⟩, title)

/-- The layout of the first degree, which must be in the same sentence. -/
def locateDegree (tokens : List Token) (p : Nat) : Option AcademicDegree.Layout :=
  AcademicDegree.locate tokens (afterRun (!stopsSearch ·) tokens p)

def locateSpeciality (tokens : List Token) (p : Nat) : Option Speciality.Layout := do
  let introduced ← afterToken introducesDirection tokens p
  let announced ← afterToken isDirection tokens introduced
  Speciality.locate tokens announced

def locateTail (tokens : List Token) (p : Nat) : Option Tail := do
  let degree := locateDegree tokens p
  let speciality ← locateSpeciality tokens (afterSpan? p (degree.map (·.suffix)))
  some ⟨degree, speciality⟩

def locate (tokens : List Token) (p : Nat) : Option Layout := do
  let (kind, title) ← locateHead tokens p
  some ⟨kind, title, locateTail tokens (title.stop + 1)⟩

theorem run_title (budget p : Nat) :
    (titleRule.recognizer (grammar.follow tokens (budget + 1))).run p =
      (quotedSpan tokens (afterRun (!isQuote ·) tokens p)).map fun title =>
        (title.stop + 1, .ofSpan? (.field schema.name "title" .raw) (some title)) := by
  rw [titleRule, Rule.recognizer_sequence, Rule.inTurn_cons, Rule.recognizer_optional,
    (skips_unquotedRun budget).optional.run_andThen, Option.bind_some, getD_afterSome]
  exact run_quotedPart budget _ _

theorem run_head (budget p : Nat) :
    (headRule.recognizer (grammar.follow tokens (budget + 1))).run p =
      (locateHead tokens p).map fun o =>
        (o.2.stop + 1, (Layout.mk o.1 o.2 none).headForest) := by
  have hkind : ((Rule.optional (.literal (.ofNormals kinds))).recognizer
      (grammar.follow tokens (budget + 1))).Skips
        fun p => some ((afterToken isKind tokens p).getD p) := by
    rw [Rule.recognizer_optional, recognizer_ofNormals]
    exact Skips.token.optional
  have hthesis : ((Rule.literal (.normalized "диссертация")).recognizer
      (grammar.follow tokens (budget + 1))).Skips (afterToken isThesis tokens) :=
    Skips.token
  rw [headRule, Rule.recognizer_interpreted, run_interpreted, Rule.recognizer_sequence,
    Rule.inTurn_cons, Rule.inTurn_cons, Rule.inTurn_singleton, run_andThen,
    Rule.recognizer_interpreted, hkind.run_interpreted, Option.map_some, Option.bind_some,
    hthesis.run_andThen, locateHead]
  dsimp only
  cases afterToken isThesis tokens ((afterToken isKind tokens p).getD p) with
  | none => rfl
  | some announced =>
    rw [Option.bind_some, run_title]
    simp only [Option.bind_eq_bind, Option.bind_some]
    cases quotedSpan tokens (afterRun (!isQuote ·) tokens announced) <;> rfl

theorem recognizer_degreeSkip (follow : String → Recognizer tokens) :
    degreeSkip.recognizer follow = token (!stopsSearch ·) := by
  rw [degreeSkip, Rule.recognizer_negation]
  change (token _).negation = _
  rw [negation_token]
  refine congrArg token (funext fun t => congrArg (!·) ?_)
  change (_ || (_ || false)) = _
  rw [Bool.or_false, Predicate.test_ofTextsCaseless, Predicate.test_ofTexts]
  rfl

theorem run_degree (budget p : Nat) :
    (degreeRule.recognizer (grammar.follow tokens (budget + 1))).run p =
      (locateDegree tokens p).map fun degree =>
        (degree.suffix.stop, Tail.degreeForest (some degree)) := by
  have hskip : (degreeSkip.zeroOrMore.recognizer (grammar.follow tokens (budget + 1))).Skips
      fun p => some (afterRun (!stopsSearch ·) tokens p) := by
    rw [Rule.zeroOrMore, Rule.recognizer_repetition, recognizer_degreeSkip]
    exact .zeroOrMore_token
  rw [degreeRule, Rule.recognizer_sequence, Rule.inTurn_cons, Rule.inTurn_singleton,
    hskip.run_andThen, Option.bind_some, Rule.recognizer_interpreted, Rule.recognizer_reference,
    AcademicDegree.run_interpreted_reference]
  rfl

theorem run_speciality (budget : Nat) (binding : Binding) (p : Nat) :
    (Rule.inTurn (grammar.follow tokens (budget + 2)) [.literal (.eq "по"),
      .literal (.ofNormals directions), .interpreted (.reference "speciality") binding]).run p =
      (locateSpeciality tokens p).map fun layout =>
        (layout.span.stop, .cons binding layout.span layout.forest .nil) := by
  have hintroduced : ((Rule.literal (.eq "по")).recognizer
      (grammar.follow tokens (budget + 2))).Skips (afterToken introducesDirection tokens) :=
    Skips.token
  have hannounced : ((Rule.literal (.ofNormals directions)).recognizer
      (grammar.follow tokens (budget + 2))).Skips (afterToken isDirection tokens) := by
    rw [recognizer_ofNormals]
    exact Skips.token
  rw [Rule.inTurn_cons, Rule.inTurn_cons, Rule.inTurn_singleton, hintroduced.run_andThen,
    locateSpeciality, Option.bind_eq_bind, Option.map_bind]
  refine congrArg _ (funext fun introduced => ?_)
  rw [hannounced.run_andThen, Function.comp, Option.map_bind]
  refine congrArg _ (funext fun announced => ?_)
  exact Speciality.run_interpreted_reference budget _ announced

theorem run_tail (budget p : Nat) :
    (tailRule.recognizer (grammar.follow tokens (budget + 2))).run p =
      (locateTail tokens p).map fun tail => (tail.speciality.span.stop, tail.forest) := by
  rw [tailRule, Rule.recognizer_sequence, Rule.inTurn_cons, run_andThen, Rule.recognizer_optional,
    run_optional, run_degree, locateTail]
  cases locateDegree tokens p with
  | none =>
    rw [Option.map_none, Option.getD_none, Option.bind_some, run_speciality]
    dsimp only [Option.map_none, afterSpan?]
    cases locateSpeciality tokens p <;> rfl
  | some degree =>
    rw [Option.map_some, Option.getD_some, Option.bind_some, run_speciality]
    dsimp only [Option.map_some, afterSpan?]
    cases locateSpeciality tokens degree.suffix.stop <;> rfl

theorem start_of_locateHead {kind title : Span} (h : locateHead tokens p = some (kind, title)) :
    kind.start = p := by
  obtain ⟨announced, _, h⟩ := Option.bind_eq_some_iff.1 h
  obtain ⟨span, _, he⟩ := Option.bind_eq_some_iff.1 h
  cases he
  rfl

/-- The thesis rule matches where a thesis is located, and captures its layout. -/
theorem run_rule (budget p : Nat) :
    (rule.recognizer (grammar.follow tokens (budget + 2))).run p =
      (locate tokens p).map fun layout => (layout.span.stop, layout.forest) := by
  rw [rule, Rule.recognizer_interpreted, run_interpreted, Rule.recognizer_sequence,
    Rule.inTurn_cons, Rule.inTurn_singleton, run_andThen, run_head, locate]
  cases hhead : locateHead tokens p with
  | none => rfl
  | some head =>
    obtain ⟨kind, title⟩ := head
    have hstart := start_of_locateHead hhead
    subst hstart
    rw [Option.map_some, Option.bind_some, Rule.recognizer_optional, run_optional, run_tail]
    simp only [Option.bind_eq_bind, Option.bind_some]
    cases locateTail tokens (title.stop + 1) <;> rfl

theorem located_of_locateTail {tail : Tail} (h : locateTail tokens p = some tail) :
    (∀ degree, tail.degree = some degree → ∃ q, AcademicDegree.locate tokens q = some degree) ∧
      ∃ q, Speciality.locate tokens q = some tail.speciality := by
  obtain ⟨speciality, hspeciality, he⟩ := Option.bind_eq_some_iff.1 h
  cases he
  obtain ⟨introduced, _, h⟩ := Option.bind_eq_some_iff.1 hspeciality
  obtain ⟨announced, _, hlocate⟩ := Option.bind_eq_some_iff.1 h
  exact ⟨fun _ hdegree => ⟨_, hdegree⟩, announced, hlocate⟩

theorem isStretch_of_locate {layout : Layout} (h : locate tokens p = some layout) :
    layout.title.IsStretch tokens := by
  obtain ⟨⟨kind, title⟩, hhead, he⟩ := Option.bind_eq_some_iff.1 h
  cases he
  obtain ⟨announced, _, h⟩ := Option.bind_eq_some_iff.1 hhead
  obtain ⟨span, hspan, he⟩ := Option.bind_eq_some_iff.1 h
  cases he
  exact isStretch_of_quotedSpan hspan

theorem locateTail_of_locate {layout : Layout} (h : locate tokens p = some layout) :
    layout.tail = locateTail tokens (layout.title.stop + 1) := by
  obtain ⟨head, _, he⟩ := Option.bind_eq_some_iff.1 h
  cases he
  rfl

theorem filled_of_locate {layout : Layout} (h : locate tokens p = some layout) :
    layout.Filled tokens := by
  refine ⟨isStretch_of_locate h, fun tail htail => ?_⟩
  obtain ⟨hdegree, q, hspeciality⟩ :=
    located_of_locateTail ((locateTail_of_locate h).symm.trans htail)
  refine ⟨fun degree hsome => ?_, Speciality.isStretch_of_locate hspeciality⟩
  obtain ⟨q', hlocate⟩ := hdegree degree hsome
  exact AcademicDegree.filled_of_locate hlocate

theorem interpret_of_matchAt (h : grammar.matchAt rule tokens start = some m) :
    ∃ layout, locate tokens start = some layout ∧
      m.interpret Thesis = .ok (layout.value tokens) := by
  obtain ⟨layout, hlayout, rfl⟩ := Grammar.layout_of_matchAt (run_rule 254 start) h
  exact ⟨layout, hlayout, layout.interpret_forest _ (filled_of_locate hlayout)⟩

end FactGrammar.Academic.Thesis
