import FactGrammar.Derive.Plan

namespace FactGrammar.Derive

namespace Code

def word (s : String) : List Tree := [.ident ⟨s, false⟩]

def signOf : List Char → List Tree
  | [] => []
  | [c] => [.mark c false]
  | c :: rest => .mark c true :: signOf rest

def sign (s : String) : List Tree := signOf s.toList

/-- A character as a string literal holds it. -/
def escaped (c : Char) : List Char := if c == '"' || c == '\\' then ['\\', c] else [c]

def string (s : String) : List Tree :=
  [.literal ⟨"\"" ++ String.ofList (s.toList.flatMap escaped) ++ "\"", some s⟩]

def parens (trees : List Tree) : List Tree := [.group .parentheses trees]

def braces (trees : List Tree) : List Tree := [.group .braces trees]

def path (words : List String) : List Tree := words.flatMap fun s => sign "::" ++ word s

def method (name : String) (arguments : List Tree) : List Tree :=
  sign "." ++ word name ++ parens arguments

def commaSeparated : List (List Tree) → List Tree
  | [] => []
  | [trees] => trees
  | trees :: rest => trees ++ sign "," ++ commaSeparated rest

end Code

open Code

namespace Param

def isLifetime : Param → Bool
  | lifetime .. => true
  | _ => false

def lifetimeTrees (name : Ident) : List Tree := [.mark '\'' true, .ident name]

/-- Bounds behind a colon, if there are any. -/
def boundTrees (bounds : List Tree) : List Tree :=
  if bounds.isEmpty then [] else sign ":" ++ bounds

def introduced : Param → List Tree
  | lifetime attributes name bounds =>
    attributes.flatMap (·.written) ++ lifetimeTrees name ++ boundTrees bounds
  | type attributes name bounds =>
    attributes.flatMap (·.written) ++ [.ident name] ++ boundTrees bounds
  | const attributes name trees =>
    attributes.flatMap (·.written) ++ word "const" ++ [.ident name] ++ sign ":" ++ trees

/-- A parameter where it is used. -/
def used : Param → List Tree
  | lifetime _ name _ => lifetimeTrees name
  | type _ name _ => [.ident name]
  | const _ name _ => [.ident name]

/-- Parameters in angle brackets, lifetimes first. Each keeps the comma behind it, and one is put
behind the last lifetime if others follow. -/
def angled (trees : Param → List Tree) (params : List (Param × Bool)) : List Tree :=
  if params.isEmpty then []
  else
    let each := fun (p, hasComma) => trees p ++ (if hasComma then sign "," else [])
    let (lifetimes, others) := params.partition (·.1.isLifetime)
    let lacksComma := lifetimes.getLast?.any (!·.2) && !others.isEmpty
    sign "<" ++ lifetimes.flatMap each ++ (if lacksComma then sign "," else []) ++
      others.flatMap each ++ sign ">"

end Param

namespace FieldPlan

/-- The part of a schema that describes a field. -/
def specTrees (f : FieldPlan) : List Tree :=
  let kind := match f.content with
    | .text => "text"
    | .nested _ => "nested"
  path ["rules", "FieldSpec", kind] ++ parens (string f.name) ++
    (if f.isNormalized then method "normalized" [] else []) ++
    (if f.isRequired then method "required" [] else [])

def toOwned : List Tree := path ["std", "borrow", "ToOwned", "to_owned"]

/-- The failure of a fact for want of a field. -/
def missing (factName : String) (f : FieldPlan) : List Tree :=
  sign "||" ++ path ["rules", "InterpretError", "MissingRequiredField"] ++
    braces (
      word "fact" ++ sign ":" ++ toOwned ++ parens (string factName) ++ sign "," ++
      word "field" ++ sign ":" ++ toOwned ++ parens (string f.name) ++ sign ",")

def lookup (f : FieldPlan) : List Tree :=
  word "record" ++
    match f.content with
    | .text => method "text" (string f.name) ++ method "map" toOwned
    | .nested _ => method "record" (string f.name)

def decoder (t : TypeExpr) : List Tree :=
  sign "<" ++ t.trees ++ word "as" ++ path ["rules", "Fact"] ++ sign ">" ++ sign "::" ++
    word "from_record"

def valueTrees (factName : String) (f : FieldPlan) : List Tree :=
  let found :=
    if f.isRequired then f.lookup ++ method "ok_or_else" (f.missing factName) ++ sign "?"
    else f.lookup
  match f.content with
  | .text => found
  | .nested t =>
    if f.isRequired then decoder t ++ parens found ++ sign "?"
    else found ++ method "map" (decoder t) ++ method "transpose" [] ++ sign "?"

def initTrees (factName : String) (f : FieldPlan) : List Tree :=
  [.ident f.ident] ++ sign ":" ++ f.valueTrees factName

end FieldPlan

namespace Plan

def schemaTrees (p : Plan) : List Tree :=
  path ["rules", "Schema", "new"] ++ parens (string p.factName) ++
    p.fields.flatMap fun f => method "with_field" f.specTrees

def valueTrees (p : Plan) : List Tree :=
  path ["std", "result", "Result", "Ok"] ++
    parens ([.ident p.ident] ++
      braces (commaSeparated (p.fields.map (·.initTrees p.factName))))

/-- The conditions on the parameters, if there are any. -/
def conditionTrees (p : Plan) : List Tree :=
  if p.conditions.isEmpty then [] else word "where" ++ p.conditions

def functionTrees (p : Plan) : List Tree :=
  word "fn" ++ word "schema" ++ parens [] ++ sign "->" ++ path ["rules", "Schema"] ++
    braces p.schemaTrees ++
  word "fn" ++ word "from_record" ++
    parens (word "record" ++ sign ":" ++ sign "&" ++ path ["rules", "Record"]) ++ sign "->" ++
    path ["std", "result", "Result"] ++ sign "<" ++ word "Self" ++ sign "," ++
    path ["rules", "InterpretError"] ++ sign ">" ++ braces p.valueTrees

def implementation (p : Plan) : List Tree :=
  word "impl" ++ Param.angled Param.introduced p.params ++ path ["rules", "Fact"] ++
    word "for" ++ [.ident p.ident] ++ Param.angled Param.used p.params ++ p.conditionTrees ++
    braces p.functionTrees

end Plan

def Item.implementation (explain : Attribute → String) (item : Item) :
    Except DeriveError (List Tree) :=
  (item.plan explain).map (·.implementation)

/-- An error as program text, at which a compiler stops. -/
def DeriveError.report (e : DeriveError) : List Tree :=
  word "compile_error" ++ sign "!" ++ parens (string e.message) ++ sign ";"

/-- The program text for an item: the implementation of the fact that it describes, or only the
error it has. -/
def Item.generate (explain : Attribute → String) (item : Item) : List Tree :=
  match item.implementation explain with
  | .ok trees => trees
  | .error e => e.report

end FactGrammar.Derive
