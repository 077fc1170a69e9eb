namespace FactGrammar

/-- Takes a value from the front of a list of symbols and leaves the rest. A reader that fails takes
nothing, so another one can be tried instead. -/
abbrev Reader (σ α : Type) := StateT (List σ) Option α

namespace Reader

variable {σ α β : Type}

def fail : Reader σ α := fun _ => none

/-- The next symbol, which stays where it is. -/
def peek? : Reader σ (Option σ) := fun s => some (s.head?, s)

def next : Reader σ σ
  | [] => none
  | c :: rest => some (c, rest)

def satisfy (p : σ → Bool) : Reader σ σ
  | [] => none
  | c :: rest => if p c then some (c, rest) else none

/-- Takes the longest run of symbols that pass a test, which may be empty. -/
def takeWhile (p : σ → Bool) : Reader σ (List σ) := fun s =>
  some (s.takeWhile p, s.dropWhile p)

def takeWhile1 (p : σ → Bool) : Reader σ (List σ) := fun s =>
  match s.takeWhile p with
  | [] => none
  | run => some (run, s.dropWhile p)

def exactly [BEq σ] (symbols : List σ) : Reader σ Unit := fun s =>
  if symbols.isPrefixOf s then some ((), s.drop symbols.length) else none

def optionally (p : Reader σ α) : Reader σ (Option α) := fun s =>
  match p s with
  | some (a, rest) => some (some a, rest)
  | none => some (none, s)

def upTo (p : Reader σ α) : Nat → Reader σ (List α)
  | 0 => pure []
  | n + 1 => fun s =>
    match p s with
    | none => some ([], s)
    | some (a, rest) => (upTo p n rest).map fun (as, rest) => (a :: as, rest)

/-- Takes as many values as there are. Each has to take at least one symbol. -/
def many (p : Reader σ α) : Reader σ (List α) := fun s =>
  upTo p s.length s

/-- Takes values with separators between them, at least one. -/
def separated1 (p : Reader σ α) (separator : Reader σ β) : Reader σ (List α) := do
  return (← p) :: (← many (do let _ ← separator; p))

def separated (p : Reader σ α) (separator : Reader σ β) : Reader σ (List α) := do
  return (← optionally (separated1 p separator)).getD []

def atEnd : Reader σ Unit
  | [] => some ((), [])
  | _ => none

/-- Reads all symbols as one value. -/
def readAll? (p : Reader σ α) (symbols : List σ) : Option α :=
  (p symbols).bind fun (a, rest) => if rest.isEmpty then some a else none

end Reader

end FactGrammar
