import FactGrammar.Matching.State
import FactGrammar.Pattern.Grammar

/-!
The matcher. It walks through the tokens with one state that every rule takes over from the rule
before it. A rule that fails puts the state back, so that another rule can be tried at the same
place.

Matching ends because references nest to a bounded depth, because a rule is larger than its parts,
and because a repetition goes on only while the cursor moves.
-/

namespace FactGrammar

/-- References that nest deeper than this do not match. -/
def maxDepth : Nat := 256

/-- The outcome of a rule, with the state it leaves behind. -/
inductive Attempt where
  | matched (after : MatchState)
  | failed (after : MatchState)
  deriving DecidableEq, Inhabited

namespace Attempt

def state : Attempt → MatchState
  | matched s => s
  | failed s => s

/-- A match reaches the state after it, and a failure has returned to `origin`. -/
def Bounded (tokens : List Token) (origin : Nat) (before : MatchState) : Attempt → Prop
  | matched s => before.Reaches tokens s
  | failed s => s.depth = before.depth ∧ s.cursor = origin

end Attempt

abbrev BoundedAttempt (tokens : List Token) (origin : Nat) (before : MatchState) :=
  { attempt : Attempt // attempt.Bounded tokens origin before }

/-- How far a repetition got: the state after it, and how often its rule matched. -/
structure Repeated (tokens : List Token) (before : MatchState) where
  after : MatchState
  count : Nat
  reaches : before.Reaches tokens after

namespace Grammar

mutual

def attempt (grammar : Grammar) (tokens : List Token) (rule : Rule) (s : MatchState) :
    BoundedAttempt tokens s.cursor s :=
  match rule with
  | .literal predicate =>
    match h : tokens[s.cursor]? with
    | some token =>
      if predicate.test token then
        ⟨.matched { s with cursor := s.cursor + 1 }, .advance (List.getElem?_eq_some_iff.1 h).1⟩
      else ⟨.failed s, rfl, rfl⟩
    | none => ⟨.failed s, rfl, rfl⟩
  | .sequence rules => attemptAll grammar tokens s rules s
  | .alternative rules => attemptAny grammar tokens rules s
  | .negation rule =>
    if h : tokens.length ≤ s.cursor then ⟨.failed s, rfl, rfl⟩
    else
      match attempt grammar tokens rule s with
      | ⟨.matched s', b⟩ => ⟨.failed (s'.restore s), b.depth_eq, rfl⟩
      | ⟨.failed s', b⟩ =>
        ⟨.matched { s' with cursor := s'.cursor + 1 },
          .trans (.of_eq b.1 b.2) (.advance (b.2 ▸ Nat.lt_of_not_le h))⟩
  | .optional rule =>
    match attempt grammar tokens rule s with
    | ⟨.matched s', b⟩ => ⟨.matched s', b⟩
    | ⟨.failed s', b⟩ => ⟨.matched s', .of_eq b.1 b.2⟩
  | .repetition rule min max =>
    let r := attemptRepeatedly grammar tokens rule max 0 s
    if r.count < min then ⟨.failed (r.after.restore s), r.reaches.depth_eq, rfl⟩
    else ⟨.matched r.after, r.reaches⟩
  | .reference name =>
    match grammar.get? name with
    | none => ⟨.failed s, rfl, rfl⟩
    | some target =>
      if maxDepth ≤ s.depth then ⟨.failed s, rfl, rfl⟩
      else
        match attempt grammar tokens target { s with depth := s.depth + 1 } with
        | ⟨.matched s', b⟩ => ⟨.matched { s' with depth := s'.depth - 1 }, b.leave⟩
        | ⟨.failed s', b⟩ =>
          ⟨.failed { s' with depth := s'.depth - 1 }, congrArg (· - 1) b.1, b.2⟩
  | .interpreted rule binding =>
    match attempt grammar tokens rule { s with tape := s.tape.reserve } with
    | ⟨.matched s', b⟩ =>
      let span : Span := ⟨s.cursor, s'.cursor⟩
      ⟨.matched { s' with tape := s'.tape.fill s.tape.length binding span },
        b.depth_eq, b.le_cursor, b.cursor_le⟩
    | ⟨.failed s', b⟩ => ⟨.failed (s'.restore s), b.1, rfl⟩
  termination_by (maxDepth - s.depth, sizeOf rule, 0)

/-- Attempts rules one after the other and returns to the state `first` when one fails. -/
def attemptAll (grammar : Grammar) (tokens : List Token) (first : MatchState) (rules : List Rule)
    (s : MatchState) : BoundedAttempt tokens first.cursor s :=
  match rules with
  | [] => ⟨.matched s, .refl tokens s⟩
  | rule :: rest =>
    match attempt grammar tokens rule s with
    | ⟨.failed s', b⟩ => ⟨.failed (s'.restore first), b.1, rfl⟩
    | ⟨.matched s', b⟩ =>
      have depth_eq := b.depth_eq
      match attemptAll grammar tokens first rest s' with
      | ⟨.failed s'', b'⟩ => ⟨.failed s'', b'.1.trans depth_eq, b'.2⟩
      | ⟨.matched s'', b'⟩ => ⟨.matched s'', b.trans b'⟩
  termination_by (maxDepth - s.depth, sizeOf rules, 0)
  decreasing_by
    · exact .right _ (.left _ _ (by simp only [List.cons.sizeOf_spec]; omega))
    · rw [depth_eq]
      exact .right _ (.left _ _ (by simp only [List.cons.sizeOf_spec]; omega))

/-- Attempts rules from the same place until one matches. -/
def attemptAny (grammar : Grammar) (tokens : List Token) (rules : List Rule) (s : MatchState) :
    BoundedAttempt tokens s.cursor s :=
  match rules with
  | [] => ⟨.failed s, rfl, rfl⟩
  | rule :: rest =>
    match attempt grammar tokens rule s with
    | ⟨.matched s', b⟩ => ⟨.matched s', b⟩
    | ⟨.failed s', b⟩ =>
      have depth_eq := b.1
      match attemptAny grammar tokens rest s' with
      | ⟨.failed s'', b'⟩ => ⟨.failed s'', b'.1.trans depth_eq, b'.2.trans b.2⟩
      | ⟨.matched s'', b'⟩ => ⟨.matched s'', .trans (.of_eq b.1 b.2) b'⟩
  termination_by (maxDepth - s.depth, sizeOf rules, 0)
  decreasing_by
    · exact .right _ (.left _ _ (by simp only [List.cons.sizeOf_spec]; omega))
    · rw [depth_eq]
      exact .right _ (.left _ _ (by simp only [List.cons.sizeOf_spec]; omega))

/-- Attempts a rule again and again until it fails, matches nothing, or has matched `max` times. -/
def attemptRepeatedly (grammar : Grammar) (tokens : List Token) (rule : Rule) (max : Option Nat)
    (count : Nat) (s : MatchState) : Repeated tokens s :=
  if max.all (count < ·) then
    match attempt grammar tokens rule s with
    | ⟨.failed s', b⟩ => ⟨s', count, .of_eq b.1 b.2⟩
    | ⟨.matched s', b⟩ =>
      have reaches : s.Reaches tokens s' := b
      if s'.cursor = s.cursor then ⟨s', count + 1, reaches⟩
      else
        let r := attemptRepeatedly grammar tokens rule max (count + 1) s'
        ⟨r.after, r.count, reaches.trans r.reaches⟩
  else ⟨s, count, .refl tokens s⟩
  termination_by (maxDepth - s.depth, sizeOf rule, tokens.length - s.cursor + 1)
  decreasing_by
    · exact .right _ (.right _ (Nat.succ_pos _))
    · have := reaches.le_cursor
      have := reaches.cursor_le
      rw [reaches.depth_eq]
      exact .right _ (.right _ (by omega))

end

end Grammar

end FactGrammar
