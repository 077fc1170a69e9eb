import FactGrammar.Derive.Tree
import FactGrammar.Reader

namespace FactGrammar.Derive

open Reader

abbrev TreeReader := Reader Tree

def keywords : List String := [
  "_", "abstract", "as", "async", "await", "become", "box", "break", "const", "continue", "crate",
  "do", "dyn", "else", "enum", "extern", "false", "final", "fn", "for", "if", "impl", "in", "let",
  "loop", "macro", "match", "mod", "move", "mut", "override", "priv", "pub", "ref", "return",
  "Self", "self", "static", "struct", "super", "trait", "true", "try", "type", "typeof", "unsafe",
  "unsized", "use", "virtual", "where", "while", "yield"]

def Ident.isName (i : Ident) : Bool := i.raw || !keywords.contains i.name

def name : TreeReader Ident := fun s =>
  match s with
  | .ident i :: rest => if i.isName then some (i, rest) else none
  | _ => none

def anyWord : TreeReader Ident := fun s =>
  match s with
  | .ident i :: rest => some (i, rest)
  | _ => none

def oneOfWords (words : List String) : TreeReader Ident := fun s =>
  match s with
  | .ident i :: rest => if !i.raw && words.contains i.name then some (i, rest) else none
  | _ => none

def wordOf (w : String) : TreeReader Unit := do
  let _ ← oneOfWords [w]

def marksOf : List Char → TreeReader Unit
  | [] => pure ()
  | [c] => fun s =>
    match s with
    | .mark c' _ :: rest => if c = c' then some ((), rest) else none
    | _ => none
  | c :: more => do
    (fun s =>
      match s with
      | .mark c' true :: rest => if c = c' then some ((), rest) else none
      | _ => none)
    marksOf more

def marks (s : String) : TreeReader Unit := marksOf s.toList

/-- Takes a lifetime and gives the word of it. -/
def lifetime : TreeReader Ident := fun s =>
  match s with
  | .mark '\'' true :: .ident i :: rest => some (i, rest)
  | _ => none

/-- Takes a group and reads all of it. -/
def inside (d : Delimiter) (p : TreeReader α) : TreeReader α := fun s =>
  match s with
  | .group d' trees :: rest =>
    if d = d' then (readAll? p trees).map fun a => (a, rest) else none
  | _ => none

def anyGroup : TreeReader Unit := fun s =>
  match s with
  | .group _ _ :: rest => some ((), rest)
  | _ => none

def literalTree : TreeReader Literal := fun s =>
  match s with
  | .literal l :: rest => some (l, rest)
  | _ => none

/-- Whether something could be taken. Nothing is. -/
def ahead (p : TreeReader α) : TreeReader Bool := fun s => some ((p s).isSome, s)

def demand (b : Bool) : TreeReader Unit := if b then pure () else fail

def withTrees (p : TreeReader α) : TreeReader (α × List Tree) := fun s =>
  (p s).map fun (a, rest) => ((a, s.take (s.length - rest.length)), rest)

/-- Up to `n` items with separators behind them, which may be missing behind the last. -/
def terminatedUpTo (item : TreeReader α) (separator : TreeReader Unit) :
    Nat → TreeReader (List (α × Bool))
  | 0 => pure []
  | n + 1 => do
    match ← optionally item with
    | none => return []
    | some a =>
      match ← optionally separator with
      | none => return [(a, false)]
      | some () => return (a, true) :: (← terminatedUpTo item separator n)

/-- Items with separators behind them, and whether each has one. -/
def terminatedItems (item : TreeReader α) (separator : TreeReader Unit) :
    TreeReader (List (α × Bool)) := fun s =>
  terminatedUpTo item separator (s.length + 1) s

/-- Items with separators behind them. -/
def terminated (item : TreeReader α) (separator : TreeReader Unit) : TreeReader (List α) := do
  return (← terminatedItems item separator).map (·.1)

def comma : TreeReader Unit := marks ","

def Literal.isNumber (l : Literal) : Bool := l.text.toList.head?.any Char.isDigit

/-- A literal, a truth value, or a number with a minus. The pieces are given as they are written. -/
def constant : TreeReader Literal :=
  literalTree <|>
  (do
    let i ← oneOfWords ["true", "false"]
    return ⟨i.name, none⟩) <|>
  (do
    marks "-"
    let l ← literalTree
    demand l.isNumber
    return ⟨"- " ++ l.text, none⟩)

end FactGrammar.Derive
