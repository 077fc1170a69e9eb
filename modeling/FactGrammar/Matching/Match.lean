import FactGrammar.Matching.Engine

namespace FactGrammar

/-- A successful match: the span it covers and what was captured on the way. -/
structure Match where
  /-- All tokens, those outside the match included. -/
  source : List Token
  span : Span
  captures : List Capture

namespace Match

def tokens (m : Match) : List Token :=
  m.span.slice m.source

def text (m : Match) : String :=
  Token.join Token.text m.tokens

end Match

namespace Grammar

variable {grammar : Grammar} {rule : Rule} {tokens : List Token}

/-- Matches a rule at exactly one place. -/
def matchAt (grammar : Grammar) (rule : Rule) (tokens : List Token) (start : Nat) : Option Match :=
  if tokens.length < start then none
  else
    match (grammar.attempt tokens rule (.start tokens start)).val with
    | .matched s => some ⟨tokens, ⟨start, s.cursor⟩, s.tape.captures⟩
    | .failed _ => none

theorem matchAt_start (h : grammar.matchAt rule tokens start = some m) : m.span.start = start := by
  unfold matchAt at h
  split at h
  · cases h
  · split at h <;> cases h
    rfl

theorem matchAt_of_failed
    (h : (grammar.attempt tokens rule (.start tokens position)).val = .failed s) :
    grammar.matchAt rule tokens position = none := by
  rw [matchAt, h]
  exact ite_self none

theorem matchAt_of_matched (hle : position ≤ tokens.length)
    (h : (grammar.attempt tokens rule (.start tokens position)).val = .matched s) :
    grammar.matchAt rule tokens position =
      some ⟨tokens, ⟨position, s.cursor⟩, s.tape.captures⟩ := by
  rw [matchAt, h, if_neg (Nat.not_lt.2 hle)]

/-- The matches from some place on. One that covers no token is passed over, and after each other
one the search goes on behind it. -/
def findFrom (grammar : Grammar) (rule : Rule) (tokens : List Token) (position : Nat) :
    List Match :=
  if tokens.length ≤ position then []
  else
    match h : grammar.matchAt rule tokens position with
    | none => findFrom grammar rule tokens (position + 1)
    | some m =>
      if m.span.isEmpty then findFrom grammar rule tokens (position + 1)
      else m :: findFrom grammar rule tokens m.span.stop
  termination_by tokens.length - position
  decreasing_by
    · omega
    · omega
    · have := matchAt_start h
      simp_all [Span.isEmpty, Span.length]
      omega

theorem findFrom_of_end (h : tokens.length ≤ position) :
    grammar.findFrom rule tokens position = [] := by
  rw [findFrom, if_pos h]

theorem findFrom_of_none (hlt : position < tokens.length)
    (h : grammar.matchAt rule tokens position = none) :
    grammar.findFrom rule tokens position = grammar.findFrom rule tokens (position + 1) := by
  rw [findFrom, if_neg (Nat.not_le.2 hlt)]
  split
  · rfl
  · rename_i hsome
    rw [h] at hsome
    cases hsome

theorem findFrom_of_some (hlt : position < tokens.length)
    (h : grammar.matchAt rule tokens position = some m) :
    grammar.findFrom rule tokens position =
      if m.span.isEmpty then grammar.findFrom rule tokens (position + 1)
      else m :: grammar.findFrom rule tokens m.span.stop := by
  rw [findFrom, if_neg (Nat.not_le.2 hlt)]
  split
  · rename_i hnone
    rw [h] at hnone
    cases hnone
  · rename_i hsome
    rw [h] at hsome
    cases hsome
    rfl

/-- All matches from left to right, none overlapping another. -/
def findAll (grammar : Grammar) (rule : Rule) (tokens : List Token) : List Match :=
  grammar.findFrom rule tokens 0

end Grammar

end FactGrammar
