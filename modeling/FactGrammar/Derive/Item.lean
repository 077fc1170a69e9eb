import FactGrammar.Derive.Lexeme
import FactGrammar.Derive.TypeExpr

namespace FactGrammar.Derive

open Reader

structure WordPath where
  isAbsolute : Bool
  words : List Ident
  deriving DecidableEq, Inhabited

/-- Whether a path is only a word. -/
def WordPath.isWord (p : WordPath) (word : String) : Bool :=
  p = ⟨false, [⟨word, false⟩]⟩

structure Attribute where
  path : WordPath
  content : List Tree
  written : List Tree

/-- Whether an attribute sets options of a fact. -/
def Attribute.isFact (a : Attribute) : Bool := a.path.isWord "fact"

/-- A parameter of an item. Defaults are dropped. -/
inductive Param where
  | lifetime (attributes : List Attribute) (name : Ident) (bounds : List Tree)
  | type (attributes : List Attribute) (name : Ident) (bounds : List Tree)
  | const (attributes : List Attribute) (name : Ident) (type : List Tree)

structure Field where
  attributes : List Attribute
  name : Ident
  type : TypeExpr

inductive Body where
  | named (fields : List Field)
  /-- The fields of a struct have no names, or there are none. -/
  | unnamed
  | notStruct

structure Item where
  attributes : List Attribute
  name : Ident
  /-- The parameters, and whether a comma follows. -/
  params : List (Param × Bool)
  /-- The conditions on the parameters, without the word in front of them. -/
  conditions : List Tree
  body : Body

/-- Takes a type, in which the sum of several bounds may stand. -/
def typeExpr (plus : Bool) : TreeReader TypeExpr := fun s =>
  (typeAndExpr (sizeOfAll s + 1)).1 plus s

def expression : TreeReader Unit := fun s =>
  (typeAndExpr (sizeOfAll s + 1)).2 s

def wordPath (word : TreeReader Ident) : TreeReader WordPath := do
  let front ← optionally (marks "::")
  let words ← separated1 word (marks "::")
  demand (!(← ahead (marks "::")))
  return ⟨front.isSome, words⟩

/-- Takes a path in which the words for places may stand. -/
def placePath : TreeReader WordPath :=
  wordPath (name <|> oneOfWords ["super", "self", "Self", "crate"])

def oneAttribute : TreeReader Attribute := do
  let ((path, content), written) ← withTrees (do
    marks "#"
    inside .brackets (do
      let path ← placePath
      return (path, ← takeWhile fun _ => true)))
  return ⟨path, content, written⟩

def attributes : TreeReader (List Attribute) := many oneAttribute

def visibility : TreeReader Unit := do
  if ← ahead (wordOf "pub") then
    wordOf "pub"
    let _ ← optionally (
      (do let _ ← inside .parentheses (oneOfWords ["crate", "self", "super"])) <|>
      (do
        let _ ← inside .parentheses (do
          wordOf "in"
          placePath)))
  else if (← ahead (wordOf "crate")) && !(← ahead (do wordOf "crate"; marks "::")) then
    wordOf "crate"

def lifetimeBounds : TreeReader Unit := do
  let _ ← terminated lifetime (marks "+")

def typeBounds : TreeReader Unit := do
  let _ ← terminated (bound typeExpr expression) (marks "+")

/-- Takes the bounds of a parameter and whether some of them hold only in constants. -/
def paramBounds : TreeReader Bool := do
  let found ← terminated (do
    let tilde ← optionally (do
      marks "~"
      wordOf "const")
    let _ ← bound typeExpr expression
    return tilde.isSome) (marks "+")
  return found.any id

def param : TreeReader Param := do
  let attributes ← attributes
  if ← ahead lifetime then
    let name ← lifetime
    if ← ahead (marks ":") then
      marks ":"
      let ((), bounds) ← withTrees lifetimeBounds
      return .lifetime attributes name bounds
    else return .lifetime attributes name []
  else if ← ahead (wordOf "const") then
    wordOf "const"
    let name ← name
    marks ":"
    let type ← typeExpr true
    if ← ahead (marks "=") then
      marks "="
      constantArgument expression
    return .const attributes name type.trees
  else if ← ahead (wordOf "_") then
    return .type attributes (← oneOfWords ["_"]) []
  else
    let name ← name
    let bounds ←
      if ← ahead (marks ":") then
        marks ":"
        let (tilde, bounds) ← withTrees paramBounds
        pure (if tilde then [] else bounds)
      else pure []
    if ← ahead (marks "=") then
      marks "="
      let _ ← typeExpr true
    return .type attributes name bounds

def params : TreeReader (List (Param × Bool)) := do
  if ← ahead (marks "<") then
    marks "<"
    let found ← terminatedItems param comma
    marks ">"
    return found
  else return []

def condition : TreeReader Unit := do
  if ← ahead (do let _ ← lifetime; marks ":") then
    let _ ← lifetime
    marks ":"
    lifetimeBounds
  else
    let _ ← optionally forLifetimes
    let _ ← typeExpr true
    marks ":"
    typeBounds

def conditions : TreeReader (List Tree) := do
  if ← ahead (wordOf "where") then
    wordOf "where"
    let (_, trees) ← withTrees (terminated condition comma)
    return trees
  else return []

def namedField : TreeReader Field := do
  let attributes ← attributes
  visibility
  let name ← name <|> oneOfWords ["_"]
  marks ":"
  return ⟨attributes, name, ← typeExpr true⟩

def namedFields : TreeReader (List Field) := inside .braces (terminated namedField comma)

def unnamedField : TreeReader Unit := do
  let _ ← attributes
  visibility
  let _ ← typeExpr true

def unnamedFields : TreeReader Unit := do
  let _ ← inside .parentheses (terminated unnamedField comma)

def variant : TreeReader Unit := do
  let _ ← attributes
  visibility
  let _ ← name
  let _ ← optionally ((do let _ ← namedFields) <|> unnamedFields)
  if ← ahead (marks "=") then
    marks "="
    expression

def structBody : TreeReader (List Tree × Body) := do
  if ← ahead unnamedFields then
    unnamedFields
    let found ← conditions
    marks ";"
    return (found, .unnamed)
  else
    let found ← conditions
    (do return (found, .named (← namedFields))) <|>
    (do
      marks ";"
      return (found, .unnamed))

def enumBody : TreeReader (List Tree × Body) := do
  let found ← conditions
  let _ ← inside .braces (terminated variant comma)
  return (found, .notStruct)

def unionBody : TreeReader (List Tree × Body) := do
  let found ← conditions
  let _ ← namedFields
  return (found, .notStruct)

def itemOf (word : String) (body : TreeReader (List Tree × Body)) : TreeReader Item := do
  let attributes ← attributes
  visibility
  wordOf word
  let name ← name
  let params ← params
  let (conditions, body) ← body
  return ⟨attributes, name, params, conditions, body⟩

namespace Item

/-- The item that a text is, if it is one. -/
def ofText? (text : String) : Option Item := do
  readAll? (itemOf "struct" structBody <|> itemOf "enum" enumBody <|> itemOf "union" unionBody)
    (← treesOf? text)

end Item

end FactGrammar.Derive
