import FactGrammar.Proofs.Matching.Algebra
import FactGrammar.Proofs.Matching.TokenRun

namespace FactGrammar

namespace Predicate

mutual

/-- A test as a rule in which only tests that are not put together from others are literals. -/
def toRule : Predicate → Rule
  | all ps => .negation (.alternative ((toRules ps).map .negation))
  | any ps => .alternative (toRules ps)
  | not p => .negation (toRule p)
  | p => .literal p

def toRules : List Predicate → List Rule
  | [] => []
  | p :: rest => toRule p :: toRules rest

end

theorem testAll_append (token : Token) (ps qs : List Predicate) :
    testAll token (ps ++ qs) = (testAll token ps && testAll token qs) := by
  induction ps with
  | nil => rfl
  | cons p rest ih => rw [List.cons_append, testAll, testAll, ih, Bool.and_assoc]

theorem testAny_append (token : Token) (ps qs : List Predicate) :
    testAny token (ps ++ qs) = (testAny token ps || testAny token qs) := by
  induction ps with
  | nil => rfl
  | cons p rest ih => rw [List.cons_append, testAny, testAny, ih, Bool.or_assoc]

theorem test_and (token : Token) (p q : Predicate) :
    (p.and q).test token = (all [p, q]).test token := by
  cases p with
  | all ps => exact testAll_append token ps [q]
  | _ => rfl

theorem test_or (token : Token) (p q : Predicate) :
    (p.or q).test token = (any [p, q]).test token := by
  cases p with
  | any ps => exact testAny_append token ps [q]
  | _ => rfl

end Predicate

theorem Recognizer.never_eq_token {tokens : List Token} :
    (never : Recognizer tokens) = token fun _ => false := by
  refine ext fun p => ?_
  rw [run_token]
  cases tokens[p]? <;> rfl

namespace Predicate

variable {tokens : List Token} {follow : String → Recognizer tokens} {p q : Predicate}

mutual

/-- Whatever it is put together from, a test as a rule takes just the tokens that pass. -/
theorem recognizer_toRule (p : Predicate) : p.toRule.recognizer follow = .token (p.test ·) := by
  cases p with
  | all ps =>
    rw [toRule, Rule.recognizer_negation, Rule.recognizer_alternative, firstOf_refusals ps,
      Recognizer.negation_token]
    simp only [Bool.not_not, test]
  | any ps =>
    rw [toRule, Rule.recognizer_alternative, firstOf_toRules ps]
    rfl
  | not p =>
    rw [toRule, Rule.recognizer_negation, recognizer_toRule p, Recognizer.negation_token]
    rfl
  | _ => rfl

theorem firstOf_toRules (ps : List Predicate) :
    Rule.firstOf follow (toRules ps) = .token (testAny · ps) := by
  cases ps with
  | nil => exact Recognizer.never_eq_token
  | cons p rest =>
    rw [toRules, Rule.firstOf_cons, recognizer_toRule p, firstOf_toRules rest,
      Recognizer.orElse_token]
    rfl

theorem firstOf_refusals (ps : List Predicate) :
    Rule.firstOf follow ((toRules ps).map .negation) = .token fun t => !testAll t ps := by
  cases ps with
  | nil => exact Recognizer.never_eq_token
  | cons p rest =>
    rw [toRules, List.map_cons, Rule.firstOf_cons, Rule.recognizer_negation, recognizer_toRule p,
      Recognizer.negation_token, firstOf_refusals rest, Recognizer.orElse_token]
    simp only [testAll, Bool.not_and]

end

theorem matchAt_literal (grammar : Grammar) (p : Predicate) (tokens : List Token) (start : Nat) :
    grammar.matchAt (.literal p) tokens start =
      if tokens[start]?.any (p.test ·) then some ⟨tokens, ⟨start, start + 1⟩, []⟩ else none := by
  rw [Grammar.matchAt_eq_ite]
  by_cases hend : tokens.length < start
  · rw [if_pos hend, List.getElem?_eq_none (Nat.le_of_lt hend)]
    rfl
  · rw [if_neg hend, Grammar.eval, Rule.recognizer, Recognizer.run_token]
    split <;> rfl

theorem literal_equivalent_toRule (h : ∀ token, p.test token = q.test token) :
    (Rule.literal p).Equivalent q.toRule := by
  apply Rule.Equivalent.of_recognizer_eq
  intro tokens follow
  rw [Rule.recognizer, funext h, recognizer_toRule]

/-- A test matches as the rule that it is written out as: both take the one token at the start if
it passes, and at the end of the tokens neither matches. So do tests that are joined by conjunction,
disjunction and negation, whether or not a test on the left takes the other one in. -/
theorem connectives_agree :
    (∀ (p : Predicate) (grammar : Grammar) (tokens : List Token) (start : Nat),
        grammar.matchAt (.literal p) tokens start = grammar.matchAt p.toRule tokens start ∧
          grammar.matchAt p.toRule tokens start =
            if tokens[start]?.any (p.test ·) then some ⟨tokens, ⟨start, start + 1⟩, []⟩
            else none) ∧
      ∀ p q : Predicate,
        (Rule.literal (p.and q)).Equivalent
            (.negation (.alternative [.negation p.toRule, .negation q.toRule])) ∧
          (Rule.literal (p.or q)).Equivalent (.alternative [p.toRule, q.toRule]) ∧
          (Rule.literal p.not).Equivalent (.negation p.toRule) := by
  refine ⟨?_, ?_⟩
  · intro p grammar tokens start
    have hrule := literal_equivalent_toRule (q := p) (fun _ => rfl) grammar tokens start
    exact ⟨hrule, hrule.symm.trans (matchAt_literal grammar p tokens start)⟩
  · intro p q
    refine ⟨?_, ?_, ?_⟩
    · exact literal_equivalent_toRule fun token => test_and token p q
    · exact literal_equivalent_toRule fun token => test_or token p q
    · exact literal_equivalent_toRule (q := p.not) fun _ => rfl

end Predicate

end FactGrammar
