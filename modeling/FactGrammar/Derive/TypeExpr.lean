import FactGrammar.Derive.TreeReader

namespace FactGrammar.Derive

open Reader

mutual

/-- A type, of which only the trees count and, if it is a plain path, the last segment. -/
inductive TypeExpr where
  /-- A path without a qualified self type, with its last segment. -/
  | path (written : AngledTrees) (last : Ident) (arguments : Arguments)
  | other (written : AngledTrees)

inductive Arguments where
  | absent
  | angled (items : List Argument)
  | parenthesized

inductive Argument where
  | type (t : TypeExpr)
  /-- A lifetime, a constant, or the type of an associated item. -/
  | other

end

namespace TypeExpr

def written : TypeExpr → AngledTrees
  | path written _ _ => written
  | other written => written

def trees (t : TypeExpr) : List Tree := t.written.trees

def isPath : TypeExpr → Bool
  | path .. => true
  | other _ => false

end TypeExpr

def Arguments.isEmpty : Arguments → Bool
  | absent => true
  | angled items => items.isEmpty
  | parenthesized => false

/-! The layers of types and expressions. Each is given readers for the types and expressions inside
it; the reader of types is told whether a sum of bounds may follow. -/

section

variable (type : Bool → TreeReader TypeExpr) (expr : TreeReader Unit)

def constantArgument : TreeReader Unit :=
  (do let _ ← constant) <|> inside .braces expr

def argument : TreeReader Argument := do
  if ← ahead (do let _ ← lifetime) then
    if !(← ahead (do let _ ← lifetime; marks "+")) then
      let _ ← lifetime
      return .other
    else return .type (← type true)
  else if ← ahead (do let _ ← name; marks "=") then
    let _ ← name
    marks "="
    if ← ahead (constantArgument expr) then constantArgument expr
    else let _ ← type true
    return .other
  else if ← ahead (do let _ ← constant) then
    let _ ← constant
    return .other
  else if ← ahead (do let _ ← anyGroup) then
    (do inside .braces expr; return .other) <|> (do return .type (← type true))
  else return .type (← type true)

def angledArguments : TreeReader Arguments := do
  let _ ← optionally (marks "::")
  marks "<"
  let items ← terminated (argument type expr) comma
  marks ">"
  return .angled items

def returnType : TreeReader Unit := do
  if ← ahead (marks "->") then
    marks "->"
    let _ ← type false

/-- Arguments between parentheses, and the type they give. -/
def parenthesizedArguments : TreeReader Arguments := do
  let _ ← inside .parentheses (terminated (type true) comma)
  returnType type
  return .parenthesized

/-- A segment of a path. In an expression arguments need a double colon before them. -/
def segment (inExpr : Bool) : TreeReader (Ident × Arguments) := do
  if ← ahead (oneOfWords ["super", "self", "crate"]) then
    return (← oneOfWords ["super", "self", "crate"], .absent)
  else
    let i ← oneOfWords ["Self"] <|> name
    let plain ← ahead (marks "<")
    let bounded ← ahead (marks "<=")
    let turned ← ahead (do marks "::"; marks "<")
    if (!inExpr && plain && !bounded) || turned then return (i, ← angledArguments type expr)
    else return (i, .absent)

def parenthesesAhead : TreeReader Bool := do
  let isGroup : TreeReader Unit := fun s =>
    match s with
    | .group .parentheses _ :: rest => some ((), rest)
    | _ => none
  return (← ahead isGroup) || (← ahead (do marks "::"; isGroup))

/-- Further segments of a path, as long as no parentheses follow the double colon. -/
def moreSegments (inExpr : Bool) : TreeReader (List (Ident × Arguments)) :=
  many (do
    demand (!(← parenthesesAhead))
    marks "::"
    segment type expr inExpr)

def plainPath (inExpr : Bool) : TreeReader (List (Ident × Arguments)) := do
  let _ ← optionally (marks "::")
  let first ← segment type expr inExpr
  return first :: (← moreSegments type expr inExpr)

def qualifiedPath (inExpr : Bool) : TreeReader (List (Ident × Arguments)) := do
  marks "<"
  let _ ← type true
  if ← ahead (wordOf "as") then
    wordOf "as"
    let _ ← plainPath type expr false
  marks ">"
  marks "::"
  separated1 (segment type expr inExpr) (marks "::")

def withParentheses (segments : List (Ident × Arguments)) :
    TreeReader (List (Ident × Arguments)) := do
  match segments.getLast? with
  | none => return segments
  | some (i, a) =>
    if a.isEmpty && (← parenthesesAhead) then
      let _ ← optionally (marks "::")
      return segments.dropLast ++ [(i, ← parenthesizedArguments type)]
    else return segments

def forLifetimes : TreeReader Unit := do
  wordOf "for"
  marks "<"
  let _ ← terminated (do
    let _ ← lifetime
    if ← ahead (marks ":") then
      marks ":"
      let _ ← terminated lifetime (marks "+")) comma
  marks ">"

def traitBound : TreeReader Unit := do
  let _ ← optionally (marks "?")
  let _ ← optionally forLifetimes
  let segments ← plainPath type expr false
  let _ ← withParentheses type segments

/-- A bound of a type: whether it is a trait. -/
def bound : TreeReader Bool :=
  (do let _ ← lifetime; return false) <|>
  (do inside .parentheses (traitBound type expr); return true) <|>
  (do traitBound type expr; return true)

def boundAhead : TreeReader Bool :=
  ahead (
    (do let _ ← anyWord) <|> marks "::" <|> marks "?" <|> (do let _ ← lifetime) <|>
    inside .parentheses (do let _ ← takeWhile fun _ => true))

/-- Further bounds behind plus signs. A plus sign may stand behind the last. -/
def moreBounds : TreeReader (List Bool) := do
  let found ← many (do
    marks "+"
    if ← boundAhead then some <$> bound type expr else return none)
  return found.filterMap id

/-- Bounds of which one has to be a trait, a sum of them only where that may stand. -/
def bounds (plus : Bool) : TreeReader Unit := do
  let first ← bound type expr
  let rest ← if plus then moreBounds type expr else pure []
  demand (first || rest.any id)

/-- What a type turns out to be: the last segment of a plain path, or something else. -/
abbrev Shape := Option (Ident × Arguments)

def functionType : TreeReader Shape := do
  let _ ← optionally forLifetimes
  let _ ← optionally (wordOf "unsafe")
  if ← ahead (wordOf "extern") then
    wordOf "extern"
    let _ ← optionally (do
      let l ← literalTree
      demand l.value.isSome)
  wordOf "fn"
  let attributes : TreeReader Unit := do
    let _ ← many (do
      marks "#"
      inside .brackets (do let _ ← takeWhile fun _ => true))
  let parameter : TreeReader Unit := do
    attributes
    if ← ahead (marks "...") then marks "..."
    else
      let named : TreeReader Unit := do
        let _ ← name <|> oneOfWords ["_", "self"]
        demand (!(← ahead (marks "::")))
        marks ":"
      if ← ahead named then named
      let _ ← type true
  let _ ← inside .parentheses (terminated parameter comma)
  returnType type
  return none

/-- A type between parentheses, a tuple, or bounds the first of which stands in parentheses. -/
def parenthesizedType (plus : Bool) : TreeReader Shape := do
  let content ← (do
    inside .parentheses (
      (do atEnd; return (none, false)) <|>
      (do
        demand (← ahead lifetime)
        bounds type expr true
        return (none, false)) <|>
      (do
        demand (← ahead (marks "?"))
        traitBound type expr
        return (none, true)) <|>
      (do
        let first ← type true
        if ← ahead comma then
          comma
          let _ ← terminated (type true) comma
          return (none, false)
        else return (some first, false))))
  let sum : TreeReader Unit := do
    let _ ← many (do marks "+"; bound type expr)
  match content with
  | (none, true) => sum
  | (some first, _) =>
    let isBound := first.isPath || (first.trees.head?.any fun
      | .ident i => i.text == "for"
      | _ => false)
    if plus && isBound then sum
  | _ => pure ()
  return none

def pathType (plus hasLifetimes : Bool) : TreeReader Shape := do
  let qualified ← ahead (marks "<")
  let segments ←
    if qualified then qualifiedPath type expr false else plainPath type expr false
  let segments ← withParentheses type segments
  if qualified then return none
  else
    let isBare := segments.all fun (_, a) =>
      match a with
      | .absent => true
      | _ => false
    let bang := (← ahead (marks "!")) && !(← ahead (marks "!="))
    if isBare && bang then
      marks "!"
      anyGroup
      return none
    else if hasLifetimes || (plus && (← ahead (marks "+"))) then
      if plus then
        let _ ← moreBounds type expr
      return none
    else return segments.getLast?

def pathAhead : TreeReader Bool :=
  ahead ((do let _ ← name <|> oneOfWords ["super", "self", "Self", "crate"]) <|> marks "::" <|>
    marks "<")

/-- A type, given readers for the types and expressions inside it. -/
def shape (plus : Bool) : TreeReader Shape := do
  let lifetimes ← optionally forLifetimes
  demand (lifetimes.isNone || (← ahead (
    name <|> oneOfWords ["fn", "unsafe", "extern", "super", "self", "Self", "crate"])))
  if ← ahead (oneOfWords ["fn", "unsafe", "extern"]) then functionType type
  else if ← ahead (wordOf "dyn") then
    wordOf "dyn"
    let _ ← optionally (marks "*")
    bounds type expr plus
    return none
  else if ← pathAhead then pathType type expr plus lifetimes.isSome
  else if ← ahead (wordOf "impl") then
    wordOf "impl"
    bounds type expr plus
    return none
  else if ← ahead (wordOf "_") then
    wordOf "_"
    return none
  else if ← ahead lifetime then
    bounds type expr true
    return none
  else if ← ahead (marks "&") then
    marks "&"
    let _ ← optionally lifetime
    let _ ← optionally (wordOf "mut")
    let _ ← type false
    return none
  else if ← ahead (marks "*") then
    marks "*"
    let _ ← oneOfWords ["const", "mut"]
    let _ ← type false
    return none
  else if ← ahead (marks "!") then
    demand (!(← ahead (marks "!=")))
    marks "!"
    return none
  else
    (do
      inside .brackets (do
        let _ ← type true
        if ← ahead (marks ";") then
          marks ";"
          expr)
      return none) <|> parenthesizedType type expr plus

def typeLayer (plus : Bool) : TreeReader TypeExpr := do
  let (shape, trees) ← withTrees (shape type expr plus)
  if h : AnglesMatch trees then
    match shape with
    | some (last, arguments) => return .path ⟨trees, h⟩ last arguments
    | none => return .other ⟨trees, h⟩
  else fail

def atom : TreeReader Unit := do
  if ← ahead (do let _ ← constant) then
    let _ ← constant
  else if ← pathAhead then
    if ← ahead (marks "<") then
      let _ ← qualifiedPath type expr true
    else
      let _ ← plainPath type expr true
  else inside .parentheses expr

def trailer : TreeReader Unit :=
  (do let _ ← inside .parentheses (terminated expr comma)) <|>
  (do
    demand (!(← ahead (marks "..")))
    marks "."
    (do let _ ← name) <|> (do
      let l ← literalTree
      demand l.isNumber)) <|>
  inside .brackets expr

def operand : TreeReader Unit := do
  let _ ← many (marks "*" <|> marks "!" <|> marks "-")
  atom type expr
  let _ ← many (trailer expr)

def binaryOperator : TreeReader Unit :=
  ["+=", "-=", "*=", "/=", "%=", "^=", "&=", "|=", "<<=", ">>=", "&&", "||", "<<", ">>", "==",
    "<=", "!=", ">=", "+", "-", "*", "/", "%", "^", "&", "|", "<", ">"].foldr
      (fun s p => marks s <|> p) fail

/-- An expression, given readers for the types and expressions inside it. -/
def exprLayer : TreeReader Unit := do
  operand type expr
  let _ ← many (
    (do binaryOperator; operand type expr) <|>
    (do
      wordOf "as"
      let _ ← type false))

end

/-- Readers for types and expressions that nest up to a depth. -/
def typeAndExpr : Nat → (Bool → TreeReader TypeExpr) × TreeReader Unit
  | 0 => (fun _ => fail, fail)
  | depth + 1 =>
    let inner := typeAndExpr depth
    (typeLayer inner.1 inner.2, exprLayer inner.1 inner.2)

end FactGrammar.Derive
