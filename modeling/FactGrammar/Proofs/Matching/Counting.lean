import FactGrammar.Proofs.Matching.Algebra

namespace FactGrammar

def Rule.atMost (rule : Rule) : Nat → Rule
  | 0 => .sequence []
  | count + 1 => .optional (.sequence [rule, rule.atMost count])

namespace Recognizer

variable {tokens : List Token} {r : Recognizer tokens}

/-- Takes a token wherever it matches. -/
def Advances (r : Recognizer tokens) : Prop :=
  ∀ p ≤ tokens.length, ∀ q f, r.run p = some (q, f) → q ≠ p

theorem repetition_none (r : Recognizer tokens) : r.repetition 0 (some 0) = empty := by
  refine ext fun p => ?_
  rw [run_repetition, iterate_of_limit]
  rfl

/-- What has to match first can be taken out of a repetition. -/
theorem Advances.repetition_succ (h : r.Advances) (least most : Nat) :
    (r.repetition (least + 1) (some (most + 1))).Agrees
      (r.andThen (r.repetition least (some most))) := by
  intro p hp
  have hlimit : some (most + 1) ≠ some 0 := nofun
  rw [run_andThen, run_repetition]
  cases hrun : r.run p with
  | none =>
    rw [iterate_of_none hlimit hrun, Iteration.atLeast, if_pos (Nat.succ_pos least)]
    rfl
  | some o =>
    rw [iterate_of_further hlimit hrun (h p hp o.1 o.2 hrun), Iteration.atLeast_next]
    rfl

/-- Where nothing has to match, the first match is optional together with all behind it. -/
theorem Advances.repetition_zero_succ (h : r.Advances) (most : Nat) :
    (r.repetition 0 (some (most + 1))).Agrees
      (r.andThen (r.repetition 0 (some most))).optional := by
  intro p hp
  have hlimit : some (most + 1) ≠ some 0 := nofun
  rw [run_optional, run_andThen, run_repetition]
  cases hrun : r.run p with
  | none =>
    rw [iterate_of_none hlimit hrun]
    rfl
  | some o =>
    rw [iterate_of_further hlimit hrun (h p hp o.1 o.2 hrun), Iteration.atLeast_next]
    rfl

end Recognizer

namespace Rule

variable {tokens : List Token} {follow : String → Recognizer tokens} {rule : Rule}

theorem repetition_agrees_atMost (h : (rule.recognizer follow).Advances) (count : Nat) :
    ((repetition rule 0 (some count)).recognizer follow).Agrees
      ((rule.atMost count).recognizer follow) := by
  induction count with
  | zero =>
    rw [recognizer_repetition, Recognizer.repetition_none]
    exact .refl _
  | succ count ih =>
    rw [atMost, recognizer_optional, recognizer_sequence, inTurn_cons, inTurn_singleton]
    exact (h.repetition_zero_succ count).trans (((Recognizer.Agrees.refl _).andThen ih).optional)

theorem repetition_agrees_inTurn (h : (rule.recognizer follow).Advances) (least count : Nat) :
    ((repetition rule least (some (least + count))).recognizer follow).Agrees
      (inTurn follow (List.replicate least rule ++ [rule.atMost count])) := by
  induction least with
  | zero =>
    rw [Nat.zero_add, List.replicate_zero, List.nil_append, inTurn_singleton]
    exact repetition_agrees_atMost h count
  | succ least ih =>
    rw [Nat.succ_add_eq_add_succ, List.replicate_succ, List.cons_append, inTurn_cons]
    exact (h.repetition_succ least (least + count)).trans
      ((Recognizer.Agrees.refl _).andThen ih)

end Rule

namespace Grammar

/-- A rule without empty matches takes a token wherever it matches. -/
theorem advances_of_isEmpty {grammar : Grammar} {tokens : List Token} {rule : Rule}
    (h : ∀ start found, grammar.matchAt rule tokens start = some found →
      found.span.isEmpty = false) :
    (rule.recognizer (grammar.follow tokens maxDepth)).Advances := by
  intro p hp q f hrun
  have hmatch : grammar.matchAt rule tokens p = some ⟨tokens, ⟨p, q⟩, f.flatten⟩ := by
    rw [matchAt_eq_ite, if_neg (Nat.not_lt.2 hp), eval, hrun]
    rfl
  exact Nat.ne_of_gt (Span.isEmpty_eq_false_iff.1 (h p _ hmatch))

/-- A repetition between two bounds of a rule without empty matches is the rule as often as it has
to match, and then the rule as often as it may match beyond that. -/
theorem matchAt_repetition_eq_sequence (grammar : Grammar) (tokens : List Token) (rule : Rule)
    (h : ∀ start found, grammar.matchAt rule tokens start = some found →
      found.span.isEmpty = false)
    (hle : least ≤ most) (start : Nat) :
    grammar.matchAt (.repetition rule least (some most)) tokens start =
      grammar.matchAt
        (.sequence (List.replicate least rule ++ [rule.atMost (most - least)])) tokens start := by
  apply matchAt_eq_of_agrees
  have hagrees := rule.repetition_agrees_inTurn (advances_of_isEmpty h) least (most - least)
  rwa [Nat.add_sub_cancel' hle] at hagrees

theorem matchAt_repetition_eq_sequence_items :
    (∀ start found, parenthesized.matchAt Rule.listItem parentheses start = some found →
        found.span.isEmpty = false) ∧
      1 ≤ 3 ∧
      parenthesized.matchAt
          (.sequence [Rule.listItem, Rule.listItem.atMost 2]) parentheses 1 =
        some ⟨parentheses, ⟨1, 4⟩, [⟨.fact listSchema, ⟨2, 4⟩, 0⟩]⟩ := by
  have hitems : ∀ start < 6, (parenthesized.eval parentheses maxDepth Rule.listItem start).all
      fun o => start < o.1 := by
    decide +kernel
  have hrepetition : parenthesized.eval parentheses maxDepth
      (.repetition Rule.listItem 1 (some 3)) 1 =
        some (4, .cons (.fact listSchema) ⟨2, 4⟩ .nil .nil) := by
    decide +kernel
  have hadvances : ∀ start found,
      parenthesized.matchAt Rule.listItem parentheses start = some found →
        found.span.isEmpty = false := by
    intro start found hfound
    obtain ⟨hstart, stop, forest, heval, rfl⟩ := eval_of_matchAt hfound
    have hitem := hitems start (Nat.lt_succ_of_le hstart)
    rw [heval, Option.all_some, decide_eq_true_eq] at hitem
    exact Span.isEmpty_eq_false_iff.2 hitem
  refine ⟨hadvances, by decide, ?_⟩
  refine (matchAt_repetition_eq_sequence parenthesized parentheses Rule.listItem hadvances
    (by decide : 1 ≤ 3) 1).symm.trans ?_
  rw [matchAt_eq_ite, if_neg (by decide), hrepetition]
  rfl

/-- A rule that matches in place is not repeated there, even if it has to match again. -/
example :
    empty.eval [] maxDepth (.repetition (.sequence []) 2 (some 2)) 0 = none ∧
      empty.eval [] maxDepth (.sequence (List.replicate 2 (.sequence []) ++
        [Rule.atMost (.sequence []) 0])) 0 = some (0, .nil) := by
  decide +kernel

end Grammar

end FactGrammar
