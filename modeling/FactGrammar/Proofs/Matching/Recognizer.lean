import FactGrammar.Pattern.Grammar
import FactGrammar.Proofs.Matching.Forest

/-!
What rules mean, without a state. A rule is read as a partial function from the position where it
starts to the position where it ends and the captures in between. The meaning of a rule is made of
the meanings of its parts, and a reference means what its rule means with one reference less left to
follow.
-/

namespace FactGrammar

/-- Where something matches, and up to where with which captures. It moves forward inside the
tokens, and its captures lie one after the other on the way. -/
structure Recognizer (tokens : List Token) where
  run : Nat → Option (Nat × CaptureForest)
  between : ∀ {p q f}, run p = some (q, f) → f.Between p q
  le_max : ∀ {p q f}, run p = some (q, f) → q ≤ max p tokens.length

/-- How far a repetition gets: how often it matched, where it ended and what it captured. -/
structure Iteration where
  count : Nat
  stop : Nat
  forest : CaptureForest

namespace Iteration

def next (i : Iteration) (forest : CaptureForest) : Iteration :=
  ⟨i.count + 1, i.stop, forest ++ i.forest⟩

/-- What the repetition comes to if it has to match so often. -/
def atLeast (i : Iteration) (least : Nat) : Option (Nat × CaptureForest) :=
  if i.count < least then none else some (i.stop, i.forest)

theorem atLeast_next (i : Iteration) (forest : CaptureForest) (least : Nat) :
    (i.next forest).atLeast least =
      (i.atLeast (least - 1)).map fun o => (o.1, forest ++ o.2) := by
  rw [atLeast, atLeast, next]
  by_cases h : i.count + 1 < least
  · rw [if_pos h, if_pos (by omega), Option.map_none]
  · rw [if_neg h, if_neg (by omega), Option.map_some]

end Iteration

namespace Recognizer

variable {tokens : List Token} {r r' : Recognizer tokens} {limit : Option Nat} {p q : Nat}

theorem le (r : Recognizer tokens) (h : r.run p = some (q, f)) : p ≤ q :=
  (r.between h).le

theorem stop_le_length (r : Recognizer tokens) (hp : p ≤ tokens.length)
    (h : r.run p = some (q, f)) : q ≤ tokens.length := by
  have hmax := r.le_max h
  rwa [Nat.max_eq_right hp] at hmax

def never : Recognizer tokens where
  run _ := none
  between h := by cases h
  le_max h := by cases h

def empty : Recognizer tokens where
  run p := some (p, .nil)
  between h := by cases h; exact Nat.le_refl _
  le_max h := by cases h; exact Nat.le_max_left _ _

def token (accepts : Token → Bool) : Recognizer tokens where
  run p := if tokens[p]?.any accepts then some (p + 1, .nil) else none
  between {p q f} h := by
    split at h
    · cases h
      exact Nat.le_succ p
    · cases h
  le_max {p q f} h := by
    split at h
    · rename_i hany
      cases h
      obtain ⟨t, ht, _⟩ := (Option.any_eq_true ..).1 hany
      obtain ⟨hp, _⟩ := List.getElem?_eq_some_iff.1 ht
      omega
    · cases h

def andThen (r r' : Recognizer tokens) : Recognizer tokens where
  run p := (r.run p).bind fun o => (r'.run o.1).map fun o' => (o'.1, o.2 ++ o'.2)
  between h := by
    obtain ⟨⟨q, f⟩, hq, h⟩ := Option.bind_eq_some_iff.1 h
    obtain ⟨⟨stop, g⟩, hg, he⟩ := Option.map_eq_some_iff.1 h
    cases he
    exact (r.between hq).append (r'.between hg)
  le_max h := by
    obtain ⟨⟨q, f⟩, hq, h⟩ := Option.bind_eq_some_iff.1 h
    obtain ⟨⟨stop, g⟩, hg, he⟩ := Option.map_eq_some_iff.1 h
    cases he
    have := r.le_max hq
    have := r'.le_max hg
    omega

def orElse (r r' : Recognizer tokens) : Recognizer tokens where
  run p := (r.run p).or (r'.run p)
  between h := by
    rcases Option.or_eq_some_iff.1 h with h | ⟨_, h⟩
    · exact r.between h
    · exact r'.between h
  le_max h := by
    rcases Option.or_eq_some_iff.1 h with h | ⟨_, h⟩
    · exact r.le_max h
    · exact r'.le_max h

/-- One token at which there is no match. -/
def negation (r : Recognizer tokens) : Recognizer tokens where
  run p := if p < tokens.length ∧ r.run p = none then some (p + 1, .nil) else none
  between {p q f} h := by
    split at h
    · cases h
      exact Nat.le_succ p
    · cases h
  le_max {p q f} h := by
    split at h
    · rename_i hp
      cases h
      omega
    · cases h

def optional (r : Recognizer tokens) : Recognizer tokens :=
  r.orElse empty

/-- Matches again and again until it fails, has matched `limit` times, or has matched in place. -/
def iterate (r : Recognizer tokens) (limit : Option Nat) (p : Nat) : Iteration :=
  if limit = some 0 then ⟨0, p, .nil⟩
  else
    match _ : r.run p with
    | none => ⟨0, p, .nil⟩
    | some (q, f) =>
      if q = p then ⟨1, q, f⟩
      else (r.iterate (limit.map (· - 1)) q).next f
  termination_by tokens.length - p
  decreasing_by
    have := r.le ‹r.run p = some _›
    have := r.le_max ‹r.run p = some _›
    omega

theorem iterate_of_limit (r : Recognizer tokens) (p : Nat) :
    r.iterate (some 0) p = ⟨0, p, .nil⟩ := by
  rw [iterate, if_pos rfl]

theorem iterate_of_none (hlimit : limit ≠ some 0) (h : r.run p = none) :
    r.iterate limit p = ⟨0, p, .nil⟩ := by
  rw [iterate, if_neg hlimit]
  split
  · rfl
  · rename_i hsome
    rw [h] at hsome
    cases hsome

theorem iterate_of_inPlace (hlimit : limit ≠ some 0) (h : r.run p = some (p, f)) :
    r.iterate limit p = ⟨1, p, f⟩ := by
  rw [iterate, if_neg hlimit]
  split
  · rename_i hnone
    rw [h] at hnone
    cases hnone
  · rename_i hsome
    rw [h] at hsome
    cases hsome
    rw [if_pos rfl]

theorem iterate_of_further (hlimit : limit ≠ some 0) (h : r.run p = some (q, f)) (hq : q ≠ p) :
    r.iterate limit p = (r.iterate (limit.map (· - 1)) q).next f := by
  rw [iterate, if_neg hlimit]
  split
  · rename_i hnone
    rw [h] at hnone
    cases hnone
  · rename_i hsome
    rw [h] at hsome
    cases hsome
    rw [if_neg hq]

theorem iterate_between (r : Recognizer tokens) (limit : Option Nat) (p : Nat) :
    (r.iterate limit p).forest.Between p (r.iterate limit p).stop := by
  fun_induction iterate r limit p with
  | case1 => exact Nat.le_refl _
  | case2 => exact Nat.le_refl _
  | case3 limit p hlimit f h => exact r.between h
  | case4 limit p hlimit q f h hq ih => exact (r.between h).append ih

theorem iterate_le_max (r : Recognizer tokens) (limit : Option Nat) (p : Nat) :
    (r.iterate limit p).stop ≤ max p tokens.length := by
  fun_induction iterate r limit p with
  | case1 => exact Nat.le_max_left _ _
  | case2 => exact Nat.le_max_left _ _
  | case3 limit p hlimit f h => exact r.le_max h
  | case4 limit p hlimit q f h hq ih =>
    have := r.le_max h
    exact Nat.le_trans ih (by omega)

def repetition (r : Recognizer tokens) (least : Nat) (most : Option Nat) : Recognizer tokens where
  run p := (r.iterate most p).atLeast least
  between h := by
    rw [Iteration.atLeast] at h
    split at h
    · cases h
    · cases h
      exact r.iterate_between most _
  le_max h := by
    rw [Iteration.atLeast] at h
    split at h
    · cases h
    · cases h
      exact r.iterate_le_max most _

def interpreted (r : Recognizer tokens) (binding : Binding) : Recognizer tokens where
  run p := (r.run p).map fun o => (o.1, .cons binding ⟨p, o.1⟩ o.2 .nil)
  between {p q f} h := by
    obtain ⟨⟨stop, g⟩, hg, he⟩ := Option.map_eq_some_iff.1 h
    cases he
    exact ⟨Nat.le_refl p, r.between hg, Nat.le_refl stop⟩
  le_max h := by
    obtain ⟨⟨stop, g⟩, hg, he⟩ := Option.map_eq_some_iff.1 h
    cases he
    exact r.le_max hg

theorem ext (h : ∀ p, r.run p = r'.run p) : r = r' := by
  cases r
  cases r'
  congr
  exact funext h

theorem run_empty : (empty : Recognizer tokens).run p = some (p, .nil) := rfl

theorem run_token :
    (token accepts : Recognizer tokens).run p =
      if tokens[p]?.any accepts then some (p + 1, .nil) else none := rfl

theorem run_andThen :
    (r.andThen r').run p =
      (r.run p).bind fun o => (r'.run o.1).map fun o' => (o'.1, o.2 ++ o'.2) := rfl

theorem run_orElse : (r.orElse r').run p = (r.run p).or (r'.run p) := rfl

theorem run_negation :
    r.negation.run p = if p < tokens.length ∧ r.run p = none then some (p + 1, .nil) else none :=
  rfl

theorem run_optional : r.optional.run p = some ((r.run p).getD (p, .nil)) := by
  rw [optional, run_orElse, run_empty]
  cases r.run p <;> rfl

theorem run_repetition :
    (r.repetition least most).run p = (r.iterate most p).atLeast least := rfl

theorem run_interpreted :
    (r.interpreted binding).run p =
      (r.run p).map fun o => (o.1, .cons binding ⟨p, o.1⟩ o.2 .nil) := rfl

theorem orElse_never (r : Recognizer tokens) : r.orElse never = r :=
  ext fun _ => Option.or_none

theorem andThen_empty (r : Recognizer tokens) : r.andThen empty = r := by
  refine ext fun p => ?_
  rw [run_andThen]
  cases r.run p with
  | none => rfl
  | some o => simp only [Option.bind_some, run_empty, Option.map_some, CaptureForest.append_nil]

end Recognizer

mutual

/-- The meaning of a rule, given what its references mean. -/
def Rule.recognizer (follow : String → Recognizer tokens) : Rule → Recognizer tokens
  | .literal predicate => .token (predicate.test ·)
  | .sequence rules => Rule.inTurn follow rules
  | .alternative rules => Rule.firstOf follow rules
  | .negation rule => (rule.recognizer follow).negation
  | .optional rule => (rule.recognizer follow).optional
  | .repetition rule least most => (rule.recognizer follow).repetition least most
  | .reference name => follow name
  | .interpreted rule binding => (rule.recognizer follow).interpreted binding

def Rule.inTurn (follow : String → Recognizer tokens) : List Rule → Recognizer tokens
  | [] => .empty
  | rule :: rest => (rule.recognizer follow).andThen (Rule.inTurn follow rest)

def Rule.firstOf (follow : String → Recognizer tokens) : List Rule → Recognizer tokens
  | [] => .never
  | rule :: rest => (rule.recognizer follow).orElse (Rule.firstOf follow rest)

end

namespace Rule

variable {follow : String → Recognizer tokens} {rule : Rule} {rules : List Rule}

theorem recognizer_sequence : (sequence rules).recognizer follow = inTurn follow rules := rfl

theorem recognizer_alternative : (alternative rules).recognizer follow = firstOf follow rules := rfl

theorem recognizer_negation :
    (negation rule).recognizer follow = (rule.recognizer follow).negation := rfl

theorem recognizer_optional :
    (optional rule).recognizer follow = (rule.recognizer follow).optional := rfl

theorem recognizer_repetition :
    (repetition rule least most).recognizer follow =
      (rule.recognizer follow).repetition least most := rfl

theorem recognizer_reference : (reference name).recognizer follow = follow name := rfl

theorem recognizer_interpreted :
    (interpreted rule binding).recognizer follow =
      (rule.recognizer follow).interpreted binding := rfl

theorem inTurn_cons :
    inTurn follow (rule :: rules) = (rule.recognizer follow).andThen (inTurn follow rules) := rfl

theorem inTurn_singleton : inTurn follow [rule] = rule.recognizer follow :=
  Recognizer.andThen_empty _

theorem firstOf_cons :
    firstOf follow (rule :: rules) = (rule.recognizer follow).orElse (firstOf follow rules) := rfl

theorem firstOf_singleton : firstOf follow [rule] = rule.recognizer follow :=
  Recognizer.orElse_never _

end Rule

namespace Grammar

/-- The meaning of a reference while references may nest `budget` deep. -/
def follow (grammar : Grammar) (tokens : List Token) : Nat → String → Recognizer tokens
  | 0, _ => .never
  | budget + 1, name =>
    match grammar.get? name with
    | none => .never
    | some target => target.recognizer (grammar.follow tokens budget)

theorem follow_of_undefined {grammar : Grammar} (h : grammar.get? name = none) :
    grammar.follow tokens budget name = .never := by
  cases budget with
  | zero => rfl
  | succ budget => rw [follow, h]

theorem follow_of_defined {grammar : Grammar} (h : grammar.get? name = some target) :
    grammar.follow tokens (budget + 1) name =
      target.recognizer (grammar.follow tokens budget) := by
  rw [follow, h]

/-- Where a rule that starts at a position ends and what it captures, while references may nest
`budget` deep. -/
def eval (grammar : Grammar) (tokens : List Token) (budget : Nat) (rule : Rule) (position : Nat) :
    Option (Nat × CaptureForest) :=
  (rule.recognizer (grammar.follow tokens budget)).run position

theorem eval_reference (grammar : Grammar) (tokens : List Token) (budget : Nat) (name : String)
    (position : Nat) :
    grammar.eval tokens budget (.reference name) position =
      (grammar.follow tokens budget name).run position := rfl

end Grammar

end FactGrammar
