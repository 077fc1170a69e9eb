import FactGrammar.Derive.Item

namespace FactGrammar.Derive

open Reader

inductive FactOption where
  | literal (l : Literal)
  | word (path : WordPath)
  | assignment (path : WordPath) (value : Literal)
  /-- Options in parentheses, and whether a comma stands behind the last. -/
  | list (path : WordPath) (options : List FactOption) (trailingComma : Bool)

/-- A path as messages show it. -/
def WordPath.text (p : WordPath) : String :=
  (if p.isAbsolute then ":: " else "") ++ " :: ".intercalate (p.words.map Ident.text)

namespace FactOption

mutual

def text : FactOption → String
  | literal l => l.text
  | word path => path.text
  | assignment path value => path.text ++ " = " ++ value.text
  | list path options trailingComma =>
    path.text ++ " (" ++ textOfAll options ++ (if trailingComma then " ," else "") ++ ")"

def textOfAll : List FactOption → String
  | [] => ""
  | [o] => o.text
  | o :: rest => o.text ++ " , " ++ textOfAll rest

end

end FactOption

/-- Takes what follows the path of an option, given a reader for options in parentheses. -/
def optionBehind (option : TreeReader FactOption) (path : WordPath) : TreeReader FactOption :=
  (do
    let options ← inside .parentheses (terminatedItems option comma)
    return .list path (options.map (·.1)) (options.getLast?.any (·.2))) <|>
  (do
    marks "="
    return .assignment path (← constant)) <|>
  return .word path

/-- Takes an option in which parentheses nest up to a depth. -/
def factOption : Nat → TreeReader FactOption
  | 0 => fail
  | depth + 1 => do
    let isAssigned ← ahead (do
      let _ ← oneOfWords ["true", "false"]
      marks "=")
    if (← ahead constant) && !isAssigned then return .literal (← constant)
    else optionBehind (factOption depth) (← wordPath anyWord)

/-- What an attribute says, if it is made like an option. -/
def Attribute.option? (a : Attribute) : Option FactOption :=
  readAll? (optionBehind (factOption (sizeOfAll a.content)) a.path) a.content

end FactGrammar.Derive
