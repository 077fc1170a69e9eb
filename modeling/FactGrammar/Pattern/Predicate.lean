import FactGrammar.Text.Numeral
import FactGrammar.Text.Uppercase
import FactGrammar.Token.Basic

namespace FactGrammar

open Text

/-- A test of a token. One of the wrong kind or with a malformed text just does not pass. -/
inductive Predicate where
  | eq (s : String)
  | caseless (s : String)
  | kind (kind : TokenKind)
  /-- An integer token whose value lies between two bounds, both included. -/
  | range (min max : Int64)
  | oneOf (set : TextSet)
  | oneOfCaseless (set : TextSet)
  | length (n : Nat)
  /-- The text begins with a capital and has no other. -/
  | capitalized
  /-- The dictionary form is this one. -/
  | normalized (s : String)
  | dictionary (set : TextSet)
  /-- The token carries the feature. -/
  | gram (gram : String)
  | all (predicates : List Predicate)
  | any (predicates : List Predicate)
  | not (predicate : Predicate)
  | custom (accepts : Token → Bool)
  deriving Inhabited

/-- Whether a text begins with a capital and has no other. -/
def isCapitalized (s : String) : Bool :=
  match s.toList with
  | [] => false
  | c :: rest => isUppercase c && rest.all (!isUppercase ·)

namespace Predicate

mutual

def test (token : Token) : Predicate → Bool
  | eq s => token.text == s
  | caseless s => lowercase token.text == s
  | kind k => token.kind == k
  | range min max =>
    token.kind == .integer &&
      match readInt64 token.text with
      | some v => min ≤ v && v ≤ max
      | none => false
  | oneOf set => set.contains token.text
  | oneOfCaseless set => set.contains (lowercase token.text)
  | length n => token.text.length == n
  | capitalized => isCapitalized token.text
  | normalized s => token.normal == s
  | dictionary set => set.contains token.normal
  | gram g => token.hasGram g
  | all ps => testAll token ps
  | any ps => testAny token ps
  | not p => !test token p
  | custom accepts => accepts token

def testAll (token : Token) : List Predicate → Bool
  | [] => true
  | p :: rest => test token p && testAll token rest

def testAny (token : Token) : List Predicate → Bool
  | [] => false
  | p :: rest => test token p || testAny token rest

end

def ofCaseless (s : String) : Predicate :=
  caseless (lowercase s)

def atLeast (min : Int64) : Predicate :=
  range min Int64.maxValue

def atMost (max : Int64) : Predicate :=
  range Int64.minValue max

def ofTexts (texts : List String) : Predicate :=
  oneOf (.ofList texts)

def ofTextsCaseless (texts : List String) : Predicate :=
  oneOfCaseless (.ofList (texts.map lowercase))

def ofNormals (normals : List String) : Predicate :=
  dictionary (.ofList normals)

theorem test_ofTexts (token : Token) (texts : List String) :
    test token (ofTexts texts) = texts.contains token.text :=
  TextSet.contains_ofList texts token.text

theorem test_ofTextsCaseless (token : Token) (texts : List String) :
    test token (ofTextsCaseless texts) = (texts.map lowercase).contains (lowercase token.text) :=
  TextSet.contains_ofList (texts.map lowercase) (lowercase token.text)

theorem test_ofNormals (token : Token) (normals : List String) :
    test token (ofNormals normals) = normals.contains token.normal :=
  TextSet.contains_ofList normals token.normal

/-- Both tests. A conjunction on the left takes the other test in. -/
def and : Predicate → Predicate → Predicate
  | all ps, q => all (ps ++ [q])
  | p, q => all [p, q]

/-- Either test. A disjunction on the left takes the other test in. -/
def or : Predicate → Predicate → Predicate
  | any ps, q => any (ps ++ [q])
  | p, q => any [p, q]

def displaySet (name : String) (set : TextSet) : String :=
  name ++ "(" ++ "|".intercalate set.toList ++ ")"

mutual

def display : Predicate → String
  | eq s => "\"" ++ s ++ "\""
  | caseless s => "caseless(\"" ++ s ++ "\")"
  | kind k => k.name
  | range min max => "range(" ++ toString min ++ ", " ++ toString max ++ ")"
  | oneOf set => displaySet "in" set
  | oneOfCaseless set => displaySet "in_caseless" set
  | length n => "length(" ++ toString n ++ ")"
  | capitalized => "capitalized"
  | normalized s => "normalized(\"" ++ s ++ "\")"
  | dictionary set => displaySet "dictionary" set
  | gram g => "gram(" ++ g ++ ")"
  | all ps => "(" ++ " & ".intercalate (displayEach ps) ++ ")"
  | any ps => "(" ++ " | ".intercalate (displayEach ps) ++ ")"
  | not p => "!" ++ display p
  | custom _ => "custom"

def displayEach : List Predicate → List String
  | [] => []
  | p :: rest => display p :: displayEach rest

end

/-- A test as it is written on its own, outside a rule. -/
def describe (p : Predicate) : String :=
  "Predicate(" ++ p.display ++ ")"

end Predicate

end FactGrammar
