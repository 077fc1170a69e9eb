import FactGrammar.Matching.Tape
import FactGrammar.Token.Basic

namespace FactGrammar

structure MatchState where
  cursor : Nat
  tape : Tape
  /-- The number of references that are being followed. -/
  depth : Nat
  deriving DecidableEq, Inhabited

namespace MatchState

def start (tokens : List Token) (position : Nat) : MatchState where
  cursor := min position tokens.length
  tape := []
  depth := 0

/-- Puts cursor and tape back to where they were in an earlier state. -/
def restore (state earlier : MatchState) : MatchState :=
  { state with cursor := earlier.cursor, tape := state.tape.take earlier.tape.length }

/-- What the end of matching rests on: a match from a state to another leaves the depth balanced and
moves forward without leaving the tokens. -/
structure Reaches (tokens : List Token) (before after : MatchState) : Prop where
  depth_eq : after.depth = before.depth
  le_cursor : before.cursor ≤ after.cursor
  cursor_le : after.cursor ≤ max before.cursor tokens.length

namespace Reaches

variable {tokens : List Token} {s s' s'' : MatchState}

theorem of_eq (depth_eq : s'.depth = s.depth) (cursor_eq : s'.cursor = s.cursor) :
    Reaches tokens s s' where
  depth_eq := depth_eq
  le_cursor := Nat.le_of_eq cursor_eq.symm
  cursor_le := cursor_eq ▸ Nat.le_max_left _ _

theorem refl (tokens : List Token) (s : MatchState) : Reaches tokens s s :=
  of_eq rfl rfl

theorem trans (h : Reaches tokens s s') (h' : Reaches tokens s' s'') : Reaches tokens s s'' where
  depth_eq := h'.depth_eq.trans h.depth_eq
  le_cursor := Nat.le_trans h.le_cursor h'.le_cursor
  cursor_le := by
    have := h.cursor_le
    have := h'.cursor_le
    omega

theorem advance (h : s.cursor < tokens.length) :
    Reaches tokens s { s with cursor := s.cursor + 1 } where
  depth_eq := rfl
  le_cursor := Nat.le_succ _
  cursor_le := Nat.le_trans h (Nat.le_max_right _ _)

theorem leave (h : Reaches tokens { s with depth := s.depth + 1 } s') :
    Reaches tokens s { s' with depth := s'.depth - 1 } where
  depth_eq := congrArg (· - 1) h.depth_eq
  le_cursor := h.le_cursor
  cursor_le := h.cursor_le

end Reaches

end MatchState

end FactGrammar
