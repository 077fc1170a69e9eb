import FactGrammar.Record.Schema
import FactGrammar.Span

namespace FactGrammar

/-- What a rule recognised. The next `descendants` captures lie inside this one. -/
structure Capture where
  binding : Binding
  span : Span
  descendants : Nat
  deriving DecidableEq, Inhabited

inductive Slot where
  | reserved
  | filled (capture : Capture)
  deriving DecidableEq, Inhabited

/-- The slots in the order of their reservation. A slot is reserved before anything inside its
capture is matched, so that each capture stands before those inside it. -/
abbrev Tape := List Slot

namespace Tape

def reserve (tape : Tape) : Tape :=
  tape ++ [.reserved]

/-- Fills the slot at `place`. All slots after it lie inside the new capture. -/
def fill (tape : Tape) (place : Nat) (binding : Binding) (span : Span) : Tape :=
  tape.set place (.filled ⟨binding, span, tape.length - place - 1⟩)

/-- The captures of the filled slots. -/
def captures (tape : Tape) : List Capture :=
  tape.filterMap fun
    | .filled capture => some capture
    | .reserved => none

end Tape

end FactGrammar
