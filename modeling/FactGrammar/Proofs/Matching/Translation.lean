import FactGrammar.Proofs.Interpretation.Forest
import FactGrammar.Proofs.Matching.Search

namespace FactGrammar

def Span.shift (k : Nat) (span : Span) : Span :=
  ⟨k + span.start, k + span.stop⟩

def Capture.shift (k : Nat) (capture : Capture) : Capture :=
  { capture with span := capture.span.shift k }

theorem Span.shift_zero (span : Span) : span.shift 0 = span := by
  rw [shift, Nat.zero_add, Nat.zero_add]

theorem Span.isEmpty_shift (k : Nat) (span : Span) : (span.shift k).isEmpty = span.isEmpty := by
  rw [isEmpty, isEmpty, length, length, shift, Nat.add_sub_add_left]

theorem Span.slice_shift (xs ys : List α) (span : Span) :
    (span.shift xs.length).slice (xs ++ ys) = span.slice ys := by
  rw [slice, slice, shift, List.take_length_add_append, List.drop_length_add_append]

namespace CaptureForest

def shift (k : Nat) : CaptureForest → CaptureForest
  | nil => nil
  | cons binding span inside rest =>
    cons binding (span.shift k) (inside.shift k) (rest.shift k)

theorem size_shift (k : Nat) (f : CaptureForest) : (f.shift k).size = f.size := by
  induction f with
  | nil => rfl
  | cons binding span inside rest ihInside ihRest => rw [shift, size, size, ihInside, ihRest]

theorem shift_append (k : Nat) (f g : CaptureForest) :
    (f ++ g).shift k = f.shift k ++ g.shift k := by
  induction f with
  | nil => rfl
  | cons binding span inside rest _ ih => rw [cons_append, shift, shift, ih, cons_append]

theorem flatten_shift (k : Nat) (f : CaptureForest) :
    (f.shift k).flatten = f.flatten.map (Capture.shift k) := by
  induction f with
  | nil => rfl
  | cons binding span inside rest ihInside ihRest =>
    rw [shift, flatten, flatten, List.map_cons, List.map_append, size_shift, ihInside, ihRest]
    rfl

end CaptureForest

/-- Where a match ends and what it captured, `k` places further on. -/
def shiftResult (k : Nat) (o : Nat × CaptureForest) : Nat × CaptureForest :=
  (k + o.1, o.2.shift k)

def Iteration.shift (k : Nat) (i : Iteration) : Iteration :=
  ⟨i.count, k + i.stop, i.forest.shift k⟩

theorem Iteration.shift_next (k : Nat) (i : Iteration) (forest : CaptureForest) :
    (i.next forest).shift k = (i.shift k).next (forest.shift k) := by
  rw [next, shift, CaptureForest.shift_append]
  rfl

theorem Iteration.atLeast_shift (k : Nat) (i : Iteration) (least : Nat) :
    (i.shift k).atLeast least = (i.atLeast least).map (shiftResult k) := by
  rw [atLeast, atLeast]
  by_cases h : i.count < least
  · rw [if_pos h, if_pos (show (i.shift k).count < least from h)]
    rfl
  · rw [if_neg h, if_neg (show ¬ (i.shift k).count < least from h)]
    rfl

namespace Recognizer

variable {tokens tokens' : List Token} {k : Nat}

/-- From place `k` on a recognizer does what another does from the beginning of its tokens. -/
def Shifts (k : Nat) (r : Recognizer tokens) (r' : Recognizer tokens') : Prop :=
  ∀ p, r.run (k + p) = (r'.run p).map (shiftResult k)

namespace Shifts

variable {r s : Recognizer tokens} {r' s' : Recognizer tokens'}

theorem never : (never : Recognizer tokens).Shifts k (never : Recognizer tokens') := by
  intro p
  rfl

theorem empty : (empty : Recognizer tokens).Shifts k (empty : Recognizer tokens') := by
  intro p
  rfl

theorem token {accepts : Token → Bool}
    (h : ∀ p, tokens[k + p]?.any accepts = tokens'[p]?.any accepts) :
    (token accepts : Recognizer tokens).Shifts k (token accepts : Recognizer tokens') := by
  intro p
  rw [run_token, run_token, h p]
  split
  · rfl
  · rfl

theorem andThen (hr : r.Shifts k r') (hs : s.Shifts k s') :
    (r.andThen s).Shifts k (r'.andThen s') := by
  intro p
  rw [run_andThen, run_andThen, hr p]
  cases r'.run p with
  | none => rfl
  | some o =>
    obtain ⟨q, f⟩ := o
    have hq := hs q
    rw [Option.map_some, Option.bind_some, Option.bind_some]
    dsimp only [shiftResult]
    rw [hq]
    cases s'.run q with
    | none => rfl
    | some o' =>
      simp only [Option.map_some, shiftResult, CaptureForest.shift_append]

theorem orElse (hr : r.Shifts k r') (hs : s.Shifts k s') :
    (r.orElse s).Shifts k (r'.orElse s') := by
  intro p
  rw [run_orElse, run_orElse, hr p, hs p]
  cases r'.run p with
  | none => rfl
  | some o => rfl

theorem negation (hlength : tokens.length = k + tokens'.length) (hr : r.Shifts k r') :
    r.negation.Shifts k r'.negation := by
  intro p
  have hlt : k + p < tokens.length ↔ p < tokens'.length := by omega
  have hnone : r.run (k + p) = none ↔ r'.run p = none := by rw [hr p, Option.map_eq_none_iff]
  rw [run_negation, run_negation]
  by_cases h : p < tokens'.length ∧ r'.run p = none
  · rw [if_pos h, if_pos (And.intro (hlt.2 h.1) (hnone.2 h.2))]
    rfl
  · rw [if_neg h, if_neg fun hk => h (And.intro (hlt.1 hk.1) (hnone.1 hk.2))]
    rfl

theorem optional (hr : r.Shifts k r') : r.optional.Shifts k r'.optional :=
  hr.orElse empty

theorem iterate (hr : r.Shifts k r') (limit : Option Nat) (p : Nat) :
    r.iterate limit (k + p) = (r'.iterate limit p).shift k := by
  fun_induction Recognizer.iterate r' limit p with
  | case1 p => exact iterate_of_limit r (k + p)
  | case2 limit p hlimit h =>
    have hrun := hr p
    rw [h] at hrun
    exact iterate_of_none hlimit hrun
  | case3 limit hlimit p f h =>
    have hrun := hr p
    rw [h] at hrun
    exact iterate_of_inPlace hlimit hrun
  | case4 limit p hlimit q f h hq ih =>
    have hrun := hr p
    rw [h] at hrun
    have hne : k + q ≠ k + p := by omega
    rw [iterate_of_further hlimit hrun hne, ih, Iteration.shift_next]

theorem repetition (hr : r.Shifts k r') (least : Nat) (most : Option Nat) :
    (r.repetition least most).Shifts k (r'.repetition least most) := by
  intro p
  rw [run_repetition, run_repetition, hr.iterate, Iteration.atLeast_shift]

theorem interpreted (hr : r.Shifts k r') (binding : Binding) :
    (r.interpreted binding).Shifts k (r'.interpreted binding) := by
  intro p
  rw [run_interpreted, run_interpreted, hr p]
  cases r'.run p with
  | none => rfl
  | some o => rfl

end Shifts

end Recognizer

/-- The tokens from place `k` on pass a test where the other tokens do. -/
def Predicate.Agrees (k : Nat) (tokens tokens' : List Token) (predicate : Predicate) : Prop :=
  ∀ p, tokens[k + p]?.any (predicate.test ·) = tokens'[p]?.any (predicate.test ·)

namespace Rule

mutual

def predicates : Rule → List Predicate
  | literal predicate => [predicate]
  | sequence rules => predicatesEach rules
  | alternative rules => predicatesEach rules
  | negation rule => predicates rule
  | optional rule => predicates rule
  | repetition rule _ _ => predicates rule
  | reference _ => []
  | interpreted rule _ => predicates rule

def predicatesEach : List Rule → List Predicate
  | [] => []
  | rule :: rest => predicates rule ++ predicatesEach rest

end

variable {tokens tokens' : List Token} {k : Nat} {follow : String → Recognizer tokens}
  {follow' : String → Recognizer tokens'}

theorem inTurn_shifts {rules : List Rule}
    (ih : ∀ rule ∈ rules, (∀ p ∈ rule.predicates, p.Agrees k tokens tokens') →
      (rule.recognizer follow).Shifts k (rule.recognizer follow'))
    (hrules : ∀ p ∈ predicatesEach rules, p.Agrees k tokens tokens') :
    (inTurn follow rules).Shifts k (inTurn follow' rules) := by
  induction rules with
  | nil => exact .empty
  | cons rule rest ihRest =>
    obtain ⟨hrule, hrest⟩ := List.forall_mem_append.1 hrules
    obtain ⟨ihRule, ihEach⟩ := List.forall_mem_cons.1 ih
    exact (ihRule hrule).andThen (ihRest ihEach hrest)

theorem firstOf_shifts {rules : List Rule}
    (ih : ∀ rule ∈ rules, (∀ p ∈ rule.predicates, p.Agrees k tokens tokens') →
      (rule.recognizer follow).Shifts k (rule.recognizer follow'))
    (hrules : ∀ p ∈ predicatesEach rules, p.Agrees k tokens tokens') :
    (firstOf follow rules).Shifts k (firstOf follow' rules) := by
  induction rules with
  | nil => exact .never
  | cons rule rest ihRest =>
    obtain ⟨hrule, hrest⟩ := List.forall_mem_append.1 hrules
    obtain ⟨ihRule, ihEach⟩ := List.forall_mem_cons.1 ih
    exact (ihRule hrule).orElse (ihRest ihEach hrest)

/-- A rule matches alike in two lists of tokens that no test in it tells apart. -/
theorem recognizer_shifts (hlength : tokens.length = k + tokens'.length)
    (hfollow : ∀ name, (follow name).Shifts k (follow' name)) (rule : Rule)
    (hrule : ∀ p ∈ rule.predicates, p.Agrees k tokens tokens') :
    (rule.recognizer follow).Shifts k (rule.recognizer follow') := by
  induction rule with
  | literal predicate => exact .token (hrule predicate List.mem_cons_self)
  | sequence rules ih => exact inTurn_shifts ih hrule
  | alternative rules ih => exact firstOf_shifts ih hrule
  | negation rule ih => exact (ih hrule).negation hlength
  | optional rule ih => exact (ih hrule).optional
  | repetition rule least most ih => exact (ih hrule).repetition least most
  | reference name => exact hfollow name
  | interpreted rule binding ih => exact (ih hrule).interpreted binding

end Rule

def Match.moveTo (source : List Token) (k : Nat) (m : Match) : Match :=
  ⟨source, m.span.shift k, m.captures.map (Capture.shift k)⟩

namespace Grammar

def predicates (grammar : Grammar) : List Predicate :=
  grammar.rules.flatMap fun r => r.2.predicates

theorem mem_predicates {grammar : Grammar} (h : grammar.get? name = some target)
    (hp : predicate ∈ target.predicates) : predicate ∈ grammar.predicates := by
  obtain ⟨before, behind, hrules, _⟩ := List.lookup_eq_some_iff.1 h
  apply List.mem_flatMap.2
  refine ⟨(name, target), ?_, hp⟩
  rw [hrules]
  exact List.mem_append_right before List.mem_cons_self

variable {grammar : Grammar} {rule : Rule} {tokens tokens' : List Token} {k : Nat}

theorem follow_shifts (hlength : tokens.length = k + tokens'.length)
    (hgrammar : ∀ p ∈ grammar.predicates, p.Agrees k tokens tokens') (budget : Nat)
    (name : String) :
    (grammar.follow tokens budget name).Shifts k (grammar.follow tokens' budget name) := by
  induction budget generalizing name with
  | zero => exact .never
  | succ budget ih =>
    cases h : grammar.get? name with
    | none =>
      rw [follow_of_undefined h, follow_of_undefined h]
      exact .never
    | some target =>
      rw [follow_of_defined h, follow_of_defined h]
      apply Rule.recognizer_shifts hlength ih
      intro p hp
      exact hgrammar p (mem_predicates h hp)

theorem matchAt_shift (hlength : tokens.length = k + tokens'.length)
    (hgrammar : ∀ p ∈ grammar.predicates, p.Agrees k tokens tokens')
    (hrule : ∀ p ∈ rule.predicates, p.Agrees k tokens tokens') (start : Nat) :
    grammar.matchAt rule tokens (k + start) =
      (grammar.matchAt rule tokens' start).map (.moveTo tokens k) := by
  have heval : grammar.eval tokens maxDepth rule (k + start) =
      (grammar.eval tokens' maxDepth rule start).map (shiftResult k) :=
    Rule.recognizer_shifts hlength (follow_shifts hlength hgrammar maxDepth) rule hrule start
  rw [matchAt_eq_ite, matchAt_eq_ite, heval]
  by_cases hstart : tokens'.length < start
  · rw [if_pos hstart, if_pos (by omega), Option.map_none]
  · rw [if_neg hstart, if_neg (by omega), Option.map_map, Option.map_map]
    congr 1
    funext o
    rw [Function.comp_apply, Function.comp_apply, shiftResult, CaptureForest.flatten_shift]
    rfl

/-- The search follows the spans of the matches, so it finds corresponding ones from corresponding
places. -/
theorem findFrom_shift {grammar' : Grammar} {rule' : Rule} {f : Match → Match}
    (hlength : tokens.length = k + tokens'.length) (hspan : ∀ m, (f m).span = m.span.shift k)
    (hmatch : ∀ start, grammar'.matchAt rule' tokens (k + start) =
      (grammar.matchAt rule tokens' start).map f) (start : Nat) :
    grammar'.findFrom rule' tokens (k + start) =
      (grammar.findFrom rule tokens' start).map f := by
  fun_induction Grammar.findFrom grammar rule tokens' start with
  | case1 start hend =>
    apply findFrom_of_end
    omega
  | case2 start hlt hnone ih =>
    have hm := hmatch start
    rw [hnone] at hm
    rw [findFrom_of_none (by omega) hm]
    exact ih
  | case3 start hlt m hsome hempty ih =>
    have hm := hmatch start
    rw [hsome] at hm
    rw [findFrom_of_some (by omega) hm, hspan, Span.isEmpty_shift, if_pos hempty]
    exact ih
  | case4 start hlt m hsome hne ih =>
    have hm := hmatch start
    rw [hsome] at hm
    rw [findFrom_of_some (by omega) hm, hspan, Span.isEmpty_shift, if_neg hne, List.map_cons]
    exact congrArg _ ih

end Grammar

/-- The tokens from place `k` on make the values that the other tokens make. -/
def Match.SameValues (k : Nat) (tokens tokens' : List Token) : Prop :=
  ∀ span mode, plainValue tokens (span.shift k) mode = plainValue tokens' span mode

theorem Match.SameValues.fieldValue {tokens tokens' : List Token}
    (h : SameValues k tokens tokens') (span : Span) (mode : FieldMode)
    (nested : Option (Except InterpretError Record)) :
    Match.fieldValue tokens (span.shift k) mode nested =
      Match.fieldValue tokens' span mode nested := by
  cases nested with
  | none => exact congrArg Except.ok (h span mode)
  | some outcome => rfl

namespace CaptureForest

variable {tokens tokens' : List Token} {k : Nat}

theorem collect_shift (h : Match.SameValues k tokens tokens') (f : CaptureForest) :
    (∀ schema record, (f.shift k).collect tokens schema record =
        f.collect tokens' schema record) ∧
      (f.shift k).siblingFact tokens = f.siblingFact tokens' := by
  induction f with
  | nil => exact ⟨fun schema record => rfl, rfl⟩
  | cons binding span inside rest ihInside ihRest =>
    obtain ⟨hcollect, hsibling⟩ := ihInside
    obtain ⟨hcollectRest, hsiblingRest⟩ := ihRest
    cases binding with
    | field owner field mode =>
      refine ⟨?_, hsiblingRest⟩
      intro schema record
      rw [shift, collect, collect, hsibling, h.fieldValue]
      simp only [hcollectRest]
    | fact inner =>
      refine ⟨?_, ?_⟩
      · intro schema record
        rw [shift, collect, collect, hcollect]
        simp only [hcollectRest]
      · rw [shift, siblingFact, siblingFact, hcollect]

theorem firstFact_shift (h : Match.SameValues k tokens tokens') (f : CaptureForest) :
    (f.shift k).firstFact tokens = f.firstFact tokens' := by
  induction f with
  | nil => rfl
  | cons binding span inside rest ihInside ihRest =>
    cases binding with
    | field owner field mode => rw [shift, firstFact, firstFact, ihInside, ihRest]
    | fact schema =>
      have hcollect := (collect_shift h inside).1
      rw [shift, firstFact, firstFact, resolve, resolve, hcollect]

end CaptureForest

theorem Match.fact_moveTo {tokens tokens' : List Token} (h : SameValues k tokens tokens')
    (hm : Grammar.matchAt grammar rule tokens' start = some m) :
    (m.moveTo tokens k).fact = m.fact := by
  obtain ⟨_, stop, forest, _, rfl⟩ := Grammar.eval_of_matchAt hm
  have hfact := fact_flatten tokens (Span.shift k ⟨start, stop⟩) (forest.shift k)
  rw [CaptureForest.flatten_shift, CaptureForest.firstFact_shift h] at hfact
  rw [fact_flatten]
  exact hfact

end FactGrammar
