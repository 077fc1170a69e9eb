namespace FactGrammar.Derive

/-- A word. A raw one may be spelled like a keyword without being it. -/
structure Ident where
  name : String
  raw : Bool
  deriving DecidableEq, Inhabited, Repr

def Ident.text (i : Ident) : String :=
  if i.raw then "r#" ++ i.name else i.name

/-- A literal as it is written, with the text it denotes if it is a string. -/
structure Literal where
  text : String
  value : Option String
  deriving DecidableEq, Inhabited, Repr

inductive Delimiter where
  | parentheses
  | brackets
  | braces
  deriving DecidableEq, Inhabited, Repr

namespace Delimiter

def opening : Delimiter → Char
  | parentheses => '('
  | brackets => '['
  | braces => '\x7b'

def closing : Delimiter → Char
  | parentheses => ')'
  | brackets => ']'
  | braces => '\x7d'

end Delimiter

inductive Tree where
  | ident (i : Ident)
  /-- One character, and whether another mark follows it without a blank. -/
  | mark (c : Char) (joint : Bool)
  | literal (l : Literal)
  | group (d : Delimiter) (trees : List Tree)
  deriving Inhabited

/-- A piece of program text without groups: brackets are marks like others. -/
inductive Piece where
  | word (s : String)
  | mark (c : Char)
  | string (value : String)
  deriving DecidableEq, Inhabited, Repr

mutual

def Tree.pieces : Tree → List Piece
  | .ident i => [.word i.text]
  | .mark c _ => [.mark c]
  | .literal l =>
    match l.value with
    | some value => [.string value]
    | none => [.word l.text]
  | .group d trees => .mark d.opening :: (piecesOf trees ++ [.mark d.closing])

def piecesOf : List Tree → List Piece
  | [] => []
  | tree :: rest => tree.pieces ++ piecesOf rest

end

mutual

def Tree.size : Tree → Nat
  | .group _ trees => 1 + sizeOfAll trees
  | _ => 1

def sizeOfAll : List Tree → Nat
  | [] => 0
  | tree :: rest => tree.size + sizeOfAll rest

end

/-- How many angle brackets are open behind some trees, if `depth` of them are open before. The mark
at the end of an arrow closes none. -/
def anglesAfter? : (depth : Nat) → List Tree → Option Nat
  | depth, [] => some depth
  | depth, .mark '-' true :: .mark '>' _ :: rest => anglesAfter? depth rest
  | depth, .mark '<' _ :: rest => anglesAfter? (depth + 1) rest
  | 0, .mark '>' _ :: _ => none
  | depth + 1, .mark '>' _ :: rest => anglesAfter? depth rest
  | depth, _ :: rest => anglesAfter? depth rest

/-- Whether some trees close every angle bracket that they open, and no other. -/
def AnglesMatch (trees : List Tree) : Prop := anglesAfter? 0 trees = some 0

instance (trees : List Tree) : Decidable (AnglesMatch trees) :=
  inferInstanceAs (Decidable (_ = _))

structure AngledTrees where
  trees : List Tree
  anglesMatch : AnglesMatch trees

end FactGrammar.Derive
