import FactGrammar.Proofs.Matching.Translation

namespace FactGrammar

def Match.bare (m : Match) : Match :=
  ⟨m.source, m.span, []⟩

namespace Rule

mutual

def erase : Rule → Rule
  | literal predicate => literal predicate
  | sequence rules => sequence (eraseEach rules)
  | alternative rules => alternative (eraseEach rules)
  | negation rule => negation (erase rule)
  | optional rule => optional (erase rule)
  | repetition rule least most => repetition (erase rule) least most
  | reference name => reference name
  | interpreted rule _ => erase rule

def eraseEach : List Rule → List Rule
  | [] => []
  | rule :: rest => erase rule :: eraseEach rest

end

end Rule

def Iteration.bare (i : Iteration) : Iteration :=
  ⟨i.count, i.stop, .nil⟩

def bareResult (o : Nat × CaptureForest) : Nat × CaptureForest :=
  (o.1, .nil)

theorem Iteration.bare_next (i : Iteration) (forest : CaptureForest) :
    (i.next forest).bare = i.bare.next .nil := rfl

theorem Iteration.atLeast_bare (i : Iteration) (least : Nat) :
    i.bare.atLeast least = (i.atLeast least).map bareResult := by
  rw [atLeast, atLeast]
  by_cases h : i.count < least
  · rw [if_pos h, if_pos (show i.bare.count < least from h)]
    rfl
  · rw [if_neg h, if_neg (show ¬ i.bare.count < least from h)]
    rfl

namespace Recognizer

variable {tokens : List Token} {r r' : Recognizer tokens}

/-- Matches where `r` does and captures nothing. -/
def bare (r : Recognizer tokens) : Recognizer tokens where
  run p := (r.run p).map bareResult
  between {p q f} h := by
    obtain ⟨⟨stop, g⟩, hg, he⟩ := Option.map_eq_some_iff.1 h
    cases he
    exact r.le hg
  le_max {p q f} h := by
    obtain ⟨⟨stop, g⟩, hg, he⟩ := Option.map_eq_some_iff.1 h
    cases he
    exact r.le_max hg

theorem run_bare : r.bare.run p = (r.run p).map bareResult := rfl

theorem bare_never : (never : Recognizer tokens).bare = never := by
  apply ext
  intro p
  rfl

theorem bare_empty : (empty : Recognizer tokens).bare = empty := by
  apply ext
  intro p
  rfl

theorem bare_token (accepts : Token → Bool) :
    (token accepts : Recognizer tokens).bare = token accepts := by
  apply ext
  intro p
  rw [run_bare, run_token]
  split
  · rfl
  · rfl

theorem bare_andThen (r r' : Recognizer tokens) :
    (r.andThen r').bare = r.bare.andThen r'.bare := by
  apply ext
  intro p
  rw [run_bare, run_andThen, run_andThen, run_bare]
  cases r.run p with
  | none => rfl
  | some o =>
    rw [Option.map_some, Option.bind_some, Option.bind_some, run_bare]
    dsimp only [bareResult]
    cases r'.run o.1 with
    | none => rfl
    | some o' => rfl

theorem bare_orElse (r r' : Recognizer tokens) : (r.orElse r').bare = r.bare.orElse r'.bare := by
  apply ext
  intro p
  rw [run_bare, run_orElse, run_orElse, run_bare, run_bare]
  cases r.run p with
  | none => rfl
  | some o => rfl

theorem bare_negation (r : Recognizer tokens) : r.negation.bare = r.bare.negation := by
  apply ext
  intro p
  have hnone : r.bare.run p = none ↔ r.run p = none := Option.map_eq_none_iff
  rw [run_bare, run_negation, run_negation]
  by_cases h : p < tokens.length ∧ r.run p = none
  · rw [if_pos h, if_pos (And.intro h.1 (hnone.2 h.2))]
    rfl
  · rw [if_neg h, if_neg fun hbare => h (And.intro hbare.1 (hnone.1 hbare.2))]
    rfl

theorem bare_optional (r : Recognizer tokens) : r.optional.bare = r.bare.optional := by
  rw [optional, optional, bare_orElse, bare_empty]

/-- A repetition goes on or stops by where its rule ends, not by what it captures. -/
theorem iterate_bare (r : Recognizer tokens) (limit : Option Nat) (p : Nat) :
    r.bare.iterate limit p = (r.iterate limit p).bare := by
  fun_induction iterate r limit p with
  | case1 p => exact iterate_of_limit r.bare p
  | case2 limit p hlimit h =>
    have hbare : r.bare.run p = none := by rw [run_bare, h, Option.map_none]
    exact iterate_of_none hlimit hbare
  | case3 limit hlimit p f h =>
    have hbare : r.bare.run p = some (p, .nil) := by rw [run_bare, h, Option.map_some]; rfl
    exact iterate_of_inPlace hlimit hbare
  | case4 limit p hlimit q f h hq ih =>
    have hbare : r.bare.run p = some (q, .nil) := by rw [run_bare, h, Option.map_some]; rfl
    rw [iterate_of_further hlimit hbare hq, ih, Iteration.bare_next]

theorem bare_repetition (r : Recognizer tokens) (least : Nat) (most : Option Nat) :
    (r.repetition least most).bare = r.bare.repetition least most := by
  apply ext
  intro p
  rw [run_bare, run_repetition, run_repetition, iterate_bare, Iteration.atLeast_bare]

theorem bare_interpreted (r : Recognizer tokens) (binding : Binding) :
    (r.interpreted binding).bare = r.bare := by
  apply ext
  intro p
  rw [run_bare, run_bare, run_interpreted, Option.map_map]
  rfl

end Recognizer

namespace Rule

variable {tokens : List Token} {follow : String → Recognizer tokens}

theorem inTurn_eraseEach {rules : List Rule}
    (ih : ∀ rule ∈ rules, rule.erase.recognizer (fun name => (follow name).bare) =
      (rule.recognizer follow).bare) :
    inTurn (fun name => (follow name).bare) (eraseEach rules) = (inTurn follow rules).bare := by
  induction rules with
  | nil => exact Recognizer.bare_empty.symm
  | cons rule rest ihRest =>
    obtain ⟨hrule, hrest⟩ := List.forall_mem_cons.1 ih
    rw [eraseEach, inTurn_cons, inTurn_cons, hrule, ihRest hrest, Recognizer.bare_andThen]

theorem firstOf_eraseEach {rules : List Rule}
    (ih : ∀ rule ∈ rules, rule.erase.recognizer (fun name => (follow name).bare) =
      (rule.recognizer follow).bare) :
    firstOf (fun name => (follow name).bare) (eraseEach rules) = (firstOf follow rules).bare := by
  induction rules with
  | nil => exact Recognizer.bare_never.symm
  | cons rule rest ihRest =>
    obtain ⟨hrule, hrest⟩ := List.forall_mem_cons.1 ih
    rw [eraseEach, firstOf_cons, firstOf_cons, hrule, ihRest hrest, Recognizer.bare_orElse]

theorem recognizer_erase (follow : String → Recognizer tokens) (rule : Rule) :
    rule.erase.recognizer (fun name => (follow name).bare) = (rule.recognizer follow).bare := by
  induction rule with
  | literal predicate => exact (Recognizer.bare_token _).symm
  | sequence rules ih => exact inTurn_eraseEach ih
  | alternative rules ih => exact firstOf_eraseEach ih
  | negation rule ih =>
    rw [erase, recognizer_negation, recognizer_negation, ih, Recognizer.bare_negation]
  | optional rule ih =>
    rw [erase, recognizer_optional, recognizer_optional, ih, Recognizer.bare_optional]
  | repetition rule least most ih =>
    rw [erase, recognizer_repetition, recognizer_repetition, ih, Recognizer.bare_repetition]
  | reference name => rfl
  | interpreted rule binding ih =>
    rw [erase, recognizer_interpreted, ih, Recognizer.bare_interpreted]

end Rule

namespace Grammar

variable {grammar : Grammar} {rule : Rule} {tokens : List Token}

def erase (grammar : Grammar) : Grammar where
  rules := grammar.rules.map fun r => (r.1, r.2.erase)
  increasing := List.pairwise_map.2 grammar.increasing

theorem lookup_map_erase (rules : List (String × Rule)) (name : String) :
    (rules.map fun r => (r.1, r.2.erase)).lookup name = (rules.lookup name).map Rule.erase := by
  induction rules with
  | nil => rfl
  | cons r rest ih =>
    rw [List.map_cons, lookup_cons_eq_ite, lookup_cons_eq_ite, ih]
    split
    · rfl
    · rfl

theorem get?_erase (grammar : Grammar) (name : String) :
    grammar.erase.get? name = (grammar.get? name).map Rule.erase :=
  lookup_map_erase grammar.rules name

theorem follow_erase (grammar : Grammar) (tokens : List Token) (budget : Nat) (name : String) :
    grammar.erase.follow tokens budget name = (grammar.follow tokens budget name).bare := by
  induction budget generalizing name with
  | zero => exact Recognizer.bare_never.symm
  | succ budget ih =>
    have herased := grammar.get?_erase name
    cases h : grammar.get? name with
    | none =>
      rw [h, Option.map_none] at herased
      rw [follow_of_undefined h, follow_of_undefined herased, Recognizer.bare_never]
    | some target =>
      rw [h, Option.map_some] at herased
      rw [follow_of_defined h, follow_of_defined herased, ← Rule.recognizer_erase]
      congr 1
      exact funext ih

theorem matchAt_erase (grammar : Grammar) (rule : Rule) (tokens : List Token) (start : Nat) :
    grammar.erase.matchAt rule.erase tokens start =
      (grammar.matchAt rule tokens start).map Match.bare := by
  have heval : grammar.erase.eval tokens maxDepth rule.erase start =
      (grammar.eval tokens maxDepth rule start).map bareResult := by
    have hfollow : grammar.erase.follow tokens maxDepth =
        fun name => (grammar.follow tokens maxDepth name).bare :=
      funext (grammar.follow_erase tokens maxDepth)
    rw [eval, hfollow, Rule.recognizer_erase]
    rfl
  rw [matchAt_eq_ite, matchAt_eq_ite, heval]
  split
  · rfl
  · rw [Option.map_map, Option.map_map]
    rfl

theorem findAll_erase (grammar : Grammar) (rule : Rule) (tokens : List Token) :
    grammar.erase.findAll rule.erase tokens = (grammar.findAll rule tokens).map Match.bare := by
  have hmatch (start : Nat) : grammar.erase.matchAt rule.erase tokens (0 + start) =
      (grammar.matchAt rule tokens start).map Match.bare := by
    rw [Nat.zero_add, matchAt_erase]
  have hspan (m : Match) : m.bare.span = m.span.shift 0 := m.span.shift_zero.symm
  exact findFrom_shift (Nat.zero_add _).symm hspan hmatch 0

/-- Without its bindings a rule matches where it did and up to the same places, and a search finds
the same spans one after the other. -/
theorem matching_ignores_bindings (grammar : Grammar) (rule : Rule) (tokens : List Token) :
    (∀ start, (grammar.erase.matchAt rule.erase tokens start).map Match.span =
        (grammar.matchAt rule tokens start).map Match.span) ∧
      (grammar.erase.findAll rule.erase tokens).map Match.span =
        (grammar.findAll rule tokens).map Match.span := by
  refine ⟨?_, ?_⟩
  · intro start
    rw [matchAt_erase, Option.map_map]
    rfl
  · rw [findAll_erase, List.map_map]
    rfl

end Grammar

end FactGrammar
