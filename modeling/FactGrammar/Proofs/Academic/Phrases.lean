import FactGrammar.Academic.Extraction
import FactGrammar.Proofs.Matching.TokenRun

namespace FactGrammar.Academic

open Recognizer

variable {tokens : List Token} {p : Nat}

def isQuote (token : Token) : Bool :=
  quoteMarks.contains token.text

def isHyphen (token : Token) : Bool :=
  hyphenMarks.contains token.normal

theorem recognizer_ofTexts (follow : String → Recognizer tokens) (texts : List String) :
    (Rule.literal (.ofTexts texts)).recognizer follow = .token fun t => texts.contains t.text :=
  congrArg token (funext fun t => Predicate.test_ofTexts t texts)

theorem recognizer_ofNormals (follow : String → Recognizer tokens) (normals : List String) :
    (Rule.literal (.ofNormals normals)).recognizer follow =
      .token fun t => normals.contains t.normal :=
  congrArg token (funext fun t => Predicate.test_ofNormals t normals)

theorem follow_quote (budget : Nat) :
    grammar.follow tokens (budget + 1) "quote" = .token isQuote := by
  have hname : grammar.get? "quote" = some quote := rfl
  exact (Grammar.follow_of_defined hname).trans (recognizer_ofTexts _ quoteMarks)

theorem follow_hyphen (budget : Nat) :
    grammar.follow tokens (budget + 1) "hyphen" = .token isHyphen := by
  have hname : grammar.get? "hyphen" = some hyphen := rfl
  exact (Grammar.follow_of_defined hname).trans (recognizer_ofNormals _ hyphenMarks)

theorem skips_unquotedRun (budget : Nat) :
    (unquotedRun.recognizer (grammar.follow tokens (budget + 1))).Skips
      (afterSome (!isQuote ·) tokens) := by
  rw [unquotedRun, Rule.oneOrMore, Rule.recognizer_repetition, Rule.recognizer_negation,
    Rule.recognizer_reference, follow_quote, negation_token]
  exact .oneOrMore_token

/-- The span of what stands between two quotation marks. -/
def quotedSpan (tokens : List Token) (p : Nat) : Option Span := do
  let opened ← afterToken isQuote tokens p
  let last ← afterSome (!isQuote ·) tokens opened
  let _ ← afterToken isQuote tokens last
  some ⟨opened, last⟩

def afterQuoted (tokens : List Token) (p : Nat) : Option Nat :=
  (quotedSpan tokens p).map (·.stop + 1)

theorem afterQuoted_eq (p : Nat) :
    afterQuoted tokens p = (afterToken isQuote tokens p).bind fun opened =>
      (afterSome (!isQuote ·) tokens opened).bind (afterToken isQuote tokens) := by
  rw [afterQuoted, quotedSpan]
  cases afterToken isQuote tokens p with
  | none => rfl
  | some opened =>
    simp only [Option.bind_eq_bind, Option.bind_some]
    cases afterSome (!isQuote ·) tokens opened with
    | none => rfl
    | some last =>
      rw [Option.bind_some, Option.bind_some]
      cases hbehind : afterToken isQuote tokens last with
      | none => rfl
      | some behind =>
        obtain ⟨_, rfl⟩ := afterToken_eq_some_iff.1 hbehind
        rfl

theorem quotedSpan_eq_some_iff {span : Span} :
    quotedSpan tokens p = some span ↔
      afterToken isQuote tokens p = some span.start ∧
        afterSome (!isQuote ·) tokens span.start = some span.stop ∧
          afterToken isQuote tokens span.stop = some (span.stop + 1) := by
  obtain ⟨start, stop⟩ := span
  simp only [quotedSpan, Option.bind_eq_bind, Option.bind_eq_some_iff, Option.some.injEq,
    Span.mk.injEq]
  constructor
  · rintro ⟨opened, hopened, last, hlast, behind, hbehind, rfl, rfl⟩
    obtain ⟨_, rfl⟩ := afterToken_eq_some_iff.1 hbehind
    exact ⟨hopened, hlast, hbehind⟩
  · rintro ⟨hopened, hlast, hbehind⟩
    exact ⟨start, hopened, stop, hlast, stop + 1, hbehind, rfl, rfl⟩

/-- A quotation that begins at a place ends with the next quotation mark. -/
theorem quotedSpan_eq (tokens : List Token) (p : Nat) :
    quotedSpan tokens p =
      (tokens[p]?.filter isQuote).bind fun _ => spanUpTo isQuote tokens (p + 1) := by
  rw [quotedSpan, afterToken_eq]
  cases tokens[p]?.filter isQuote with
  | none => rfl
  | some opening =>
    simp only [Option.map_some, Option.bind_eq_bind, Option.bind_some]
    rw [bind_afterSome isQuote tokens (p + 1) fun last _ => some (⟨p + 1, last⟩ : Span)]
    cases hspan : spanUpTo isQuote tokens (p + 1) with
    | none => rfl
    | some span => rw [Option.bind_some, ← (spanUpTo_eq_some_iff.1 hspan).1]

/-- The first quotation from a place on begins with the first quotation mark. -/
theorem quotedSpan_afterRun (tokens : List Token) (p : Nat) :
    quotedSpan tokens (afterRun (!isQuote ·) tokens p) =
      (firstFrom isQuote tokens p).bind fun opening => spanUpTo isQuote tokens (opening + 1) := by
  rw [quotedSpan_eq, firstFrom_eq]
  cases ht : tokens[afterRun (!isQuote ·) tokens p]? with
  | none => rfl
  | some t =>
    rw [Option.filter_some_pos (accepts_of_afterRun ht)]
    rfl

theorem isStretch_of_quotedSpan {span : Span} (h : quotedSpan tokens p = some span) :
    span.IsStretch tokens :=
  isStretch_of_afterSome (quotedSpan_eq_some_iff.1 h).2.1

theorem lt_of_afterQuoted (h : afterQuoted tokens p = some q) : p < q ∧ q ≤ tokens.length := by
  obtain ⟨span, hspan, rfl⟩ := Option.map_eq_some_iff.1 h
  obtain ⟨hopened, hlast, hbehind⟩ := quotedSpan_eq_some_iff.1 hspan
  have := lt_of_afterToken hopened
  have := lt_of_afterSome hlast
  have := lt_of_afterToken hbehind
  omega

theorem run_quotedPart (budget : Nat) (binding : Binding) (p : Nat) :
    ((Rule.sequence [.reference "quote", .interpreted unquotedRun binding,
        .reference "quote"]).recognizer (grammar.follow tokens (budget + 1))).run p =
      (quotedSpan tokens p).map fun span => (span.stop + 1, .ofSpan? binding (some span)) := by
  rw [Rule.recognizer_sequence, Rule.inTurn_cons, Rule.inTurn_cons, Rule.inTurn_singleton,
    Rule.recognizer_reference, follow_quote, Skips.token.run_andThen, quotedSpan]
  cases afterToken isQuote tokens p with
  | none => rfl
  | some opened =>
    rw [Option.bind_some, run_andThen, Rule.recognizer_interpreted,
      (skips_unquotedRun budget).run_interpreted]
    simp only [Option.bind_eq_bind, Option.bind_some]
    cases afterSome (!isQuote ·) tokens opened with
    | none => rfl
    | some last =>
      simp only [Option.map_some, Option.bind_some, Skips.token last]
      cases hbehind : afterToken isQuote tokens last with
      | none => rfl
      | some behind =>
        obtain ⟨_, rfl⟩ := afterToken_eq_some_iff.1 hbehind
        rfl

theorem skips_quoted (budget : Nat) :
    (grammar.follow tokens (budget + 2) "quoted").Skips (afterQuoted tokens) := by
  have hname : grammar.get? "quoted" = some quoted := rfl
  rw [Grammar.follow_of_defined hname, quoted, Rule.recognizer_sequence, Rule.inTurn_cons,
    Rule.inTurn_cons, Rule.inTurn_singleton, Rule.recognizer_reference, follow_quote,
    funext afterQuoted_eq]
  exact Skips.token.andThen ((skips_unquotedRun budget).andThen .token)

end FactGrammar.Academic
