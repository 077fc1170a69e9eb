import FactGrammar.Derive.Tree
import FactGrammar.Reader
import FactGrammar.Text.Identifier
import FactGrammar.Text.Classes

namespace FactGrammar.Derive

open Reader

/-- A lexeme: a tree without a group, or a bracket. -/
inductive Lexeme where
  | leaf (tree : Tree)
  | opening (d : Delimiter)
  | closing (d : Delimiter)

abbrev LexemeReader := Reader Char

namespace Lexeme

def exact (s : String) : LexemeReader Unit := exactly s.toList

def comesNext (s : String) : LexemeReader Bool := fun cs => some (s.toList.isPrefixOf cs, cs)

def require (b : Bool) : LexemeReader Unit := if b then pure () else fail

def withChars (p : LexemeReader α) : LexemeReader (α × List Char) := fun s =>
  (p s).map fun (a, rest) => ((a, s.take (s.length - rest.length)), rest)

/-! Comments and blanks. -/

/-- Whether a character is blank between lexemes. Direction marks are. -/
def isBlankChar (c : Char) : Bool :=
  Text.isWhitespace c || c == '\u200e' || c == '\u200f'

def lineTail : LexemeReader (List Char) := fun s =>
  let line := s.takeWhile (· != '\n')
  let line := if line.length < s.length && line.getLast? == some '\r' then line.dropLast else line
  some (line, s.drop line.length)

/-- The text of a comment between marks after its opening mark. Such comments nest. -/
def blockTail : Nat → List Char → Option (List Char × List Char)
  | 0, '*' :: '/' :: rest => some ([], rest)
  | depth + 1, '*' :: '/' :: rest =>
    (blockTail depth rest).map fun (cs, rest) => ('*' :: '/' :: cs, rest)
  | depth, '/' :: '*' :: rest =>
    (blockTail (depth + 1) rest).map fun (cs, rest) => ('/' :: '*' :: cs, rest)
  | depth, c :: rest => (blockTail depth rest).map fun (cs, rest) => (c :: cs, rest)
  | _, [] => none

def blockComment : LexemeReader (List Char) := do
  exact "/*"
  blockTail 0

def plainComment : LexemeReader Unit := do
  if ← comesNext "//" then
    require (!(← comesNext "///") || (← comesNext "////"))
    require (!(← comesNext "//!"))
    let _ ← lineTail
  else if ← comesNext "/**/" then exact "/**/"
  else
    require (!(← comesNext "/**") || (← comesNext "/***"))
    require (!(← comesNext "/*!"))
    let _ ← blockComment

/-- Blanks and comments that document nothing. -/
def blanks : LexemeReader Unit := do
  let _ ← many ((do let _ ← takeWhile1 isBlankChar) <|> plainComment)

def carriageReturnsEndLines : List Char → Bool
  | '\r' :: '\n' :: rest => carriageReturnsEndLines rest
  | '\r' :: _ => false
  | _ :: rest => carriageReturnsEndLines rest
  | [] => true

/-- The attribute that documents something with a text; `inner` if it documents what it stands
in. -/
def docAttribute (inner : Bool) (text : List Char) : List Lexeme :=
  let value := String.ofList text
  [.leaf (.mark '#' false)] ++ (if inner then [.leaf (.mark '!' false)] else []) ++
  [.opening .brackets, .leaf (.ident ⟨"doc", false⟩), .leaf (.mark '=' false),
    .leaf (.literal ⟨value, some value⟩), .closing .brackets]

def docComment : LexemeReader (List Lexeme) := do
  let (inner, text) ←
    (do exact "//!"; return (true, ← lineTail)) <|>
    (do
      require (← comesNext "/*!")
      return (true, (← blockComment).drop 1)) <|>
    (do
      exact "///"
      require (!(← comesNext "/"))
      return (false, ← lineTail)) <|>
    (do
      require ((← comesNext "/**") && !(← comesNext "/***"))
      return (false, (← blockComment).drop 1))
  require (carriageReturnsEndLines text)
  return docAttribute inner text

/-! Words. -/

def isWordStart (c : Char) : Bool := c == '_' || Text.isIdentifierStart c

def wordChars : LexemeReader (List Char) := do
  let first ← satisfy isWordStart
  return first :: (← takeWhile Text.isIdentifierContinue)

/-- The words that must not be raw. -/
def neverRaw : List String := ["_", "super", "self", "Self", "crate"]

def word : LexemeReader Ident :=
  (do
    exact "r#"
    let name := String.ofList (← wordChars)
    require (!neverRaw.contains name)
    return ⟨name, true⟩) <|>
  (do
    require (!(← comesNext "r#"))
    return ⟨String.ofList (← wordChars), false⟩)

/-- How literals begin that are not words. -/
def literalStarts : List String :=
  ["r\"", "r#\"", "r##", "b\"", "b'", "br\"", "br#", "c\"", "cr\"", "cr#"]

def wordLexeme : LexemeReader Ident := fun s =>
  if literalStarts.any (·.toList.isPrefixOf s) then none else word s

/-! Literals. -/

def hexDigit? (c : Char) : Option Nat :=
  if c.isDigit then some (c.toNat - '0'.toNat)
  else if 'a' ≤ c ∧ c ≤ 'f' then some (c.toNat - 'a'.toNat + 10)
  else if 'A' ≤ c ∧ c ≤ 'F' then some (c.toNat - 'A'.toNat + 10)
  else none

def hexDigit : LexemeReader Nat := do
  match hexDigit? (← next) with
  | some d => return d
  | none => fail

/-- The letters that stand for one character after a backslash. -/
def simpleEscape? : Char → Option Char
  | 'n' => some '\n'
  | 'r' => some '\r'
  | 't' => some '\t'
  | '\\' => some '\\'
  | '0' => some '\x00'
  | '\'' => some '\''
  | '"' => some '"'
  | _ => none

def hexEscape (bound : Nat) : LexemeReader Char := do
  let n := (← hexDigit) * 16 + (← hexDigit)
  require (n ≤ bound)
  return Char.ofNat n

/-- The character with a code point of up to six hexadecimal digits in braces. Underscores may stand
after the first digit. -/
def codePointEscape : LexemeReader Char := do
  exact "\x7b"
  let first ← satisfy fun c => (hexDigit? c).isSome
  let rest ← takeWhile fun c => (hexDigit? c).isSome || c == '_'
  exact "\x7d"
  let digits := (first :: rest).filterMap hexDigit?
  let n := digits.foldl (fun n d => n * 16 + d) 0
  require (digits.length ≤ 6 && decide n.isValidChar)
  return Char.ofNat n

def stringNewline : LexemeReader Unit := exact "\n" <|> exact "\r\n"

/-- What a backslash at the end of a line drops. -/
def droppedBlanks : LexemeReader Unit := do
  stringNewline
  let _ ← many (exact " " <|> exact "\t" <|> stringNewline)
  require (!(← comesNext "\r"))

/-- What a character of a string, or a backslash and what belongs to it, stands for. -/
def stringChar (isPlain : Char → Bool) (escape : LexemeReader Char) :
    LexemeReader (List Char) := do
  match ← next with
  | '"' => fail
  | '\r' => exact "\n"; return ['\n']
  | '\\' =>
    (do droppedBlanks; return []) <|>
    (do return [← escape]) <|>
    (do
      match simpleEscape? (← next) with
      | some c => return [c]
      | none => fail)
  | c => require (isPlain c); return [c]

def charEscape : LexemeReader Char :=
  (do exact "x"; hexEscape 0x7F) <|> (do exact "u"; codePointEscape)

def byteEscape : LexemeReader Char := do exact "x"; hexEscape 0xFF

def cookedString (isPlain : Char → Bool) (escape : LexemeReader Char) : LexemeReader String := do
  exact "\""
  let chars ← many (stringChar isPlain escape)
  exact "\""
  return String.ofList chars.flatten

/-- The rest of a raw string up to a quotation mark with the number signs `fence` behind it. -/
def rawTail (fence : List Char) : List Char → Option (List Char × List Char)
  | '"' :: rest =>
    if fence.isPrefixOf rest then some ([], rest.drop fence.length)
    else (rawTail fence rest).map fun (cs, rest) => ('"' :: cs, rest)
  | '\r' :: '\n' :: rest => (rawTail fence rest).map fun (cs, rest) => ('\r' :: '\n' :: cs, rest)
  | '\r' :: _ => none
  | c :: rest => (rawTail fence rest).map fun (cs, rest) => (c :: cs, rest)
  | [] => none

def rawString : LexemeReader String := do
  exact "r"
  let fence ← takeWhile (· == '#')
  exact "\""
  require (fence.length ≤ 255)
  return String.ofList (← rawTail fence)

def charLiteral (isPlain : Char → Bool) (escape : LexemeReader Char) : LexemeReader Unit := do
  exact "'"
  match ← next with
  | '\\' =>
    let _ ← escape <|> (do
      match simpleEscape? (← next) with
      | some c => return c
      | none => fail)
  | c => require (isPlain c)
  exact "'"

def isAscii (c : Char) : Bool := c.toNat < 0x80

def isDigitOrUnderscore (c : Char) : Bool := c.isDigit || c == '_'

/-- The exponent of a float: underscores, at most one sign among them, and a digit. -/
def floatExponent : LexemeReader Unit := do
  let _ ← satisfy fun c => c == 'e' || c == 'E'
  let _ ← takeWhile (· == '_')
  let _ ← optionally (satisfy fun c => c == '+' || c == '-')
  let _ ← takeWhile (· == '_')
  let _ ← satisfy Char.isDigit
  let _ ← takeWhile isDigitOrUnderscore

/-- The point of a float, behind which no second point and no word may begin. -/
def floatPoint : LexemeReader Unit := do
  exact "."
  require (!((← peek?).any fun c => c == '.' || isWordStart c))
  let _ ← takeWhile isDigitOrUnderscore

def floatDigits : LexemeReader Unit := do
  let _ ← satisfy Char.isDigit
  let _ ← takeWhile isDigitOrUnderscore
  (do
    floatPoint
    let _ ← optionally floatExponent) <|> floatExponent

def basedDigits (mark : String) (base : Nat) : LexemeReader Unit := do
  exact mark
  let digits ← takeWhile fun c =>
    c == '_' || (hexDigit? c).any fun d => d < base || (c.isDigit && d < 10)
  require (digits.any (· != '_'))
  require (digits.all fun c => (hexDigit? c).all (· < base))

def integerDigits : LexemeReader Unit := do
  if ← comesNext "0x" then basedDigits "0x" 16
  else if ← comesNext "0o" then basedDigits "0o" 8
  else if ← comesNext "0b" then basedDigits "0b" 2
  else
    let _ ← satisfy Char.isDigit
    let _ ← takeWhile isDigitOrUnderscore

def number (digits : LexemeReader Unit) : LexemeReader Unit := do
  digits
  let _ ← optionally wordChars
  require (!((← peek?).any Text.isIdentifierContinue))

/-- A literal, with the text it denotes if it is a string. Other strings than those of characters
denote none. -/
def literalValue : LexemeReader (Option String) :=
  (do return some (← cookedString (fun _ => true) charEscape <|> rawString)) <|>
  (do exact "b"; let _ ← cookedString isAscii byteEscape <|> rawString; return none) <|>
  (do
    exact "c"
    let _ ← cookedString (fun _ => true) (byteEscape <|> charEscape) <|> rawString
    return none) <|>
  (do exact "b"; charLiteral isAscii byteEscape; return none) <|>
  (do charLiteral (fun _ => true) charEscape; return none)

def literal : LexemeReader Literal := do
  let (value, chars) ← withChars
    ((do
      let value ← literalValue
      let _ ← optionally wordChars
      return value) <|>
    (do number floatDigits <|> number integerDigits; return none))
  return ⟨String.ofList chars, value⟩

/-! Marks. -/

def markChars : List Char := "~!@#$%^&*-=+|;:,<.>/?'".toList

/-- A mark. A slash that begins a comment is none. -/
def markChar : LexemeReader Char := do
  require (!(← comesNext "//") && !(← comesNext "/*"))
  satisfy markChars.contains

/-- The apostrophe of a lifetime, which a word has to follow and no second apostrophe. -/
def lifetimeMark : LexemeReader Tree := fun s => do
  let ((), rest) ← exact "'" s
  let raw := "r#".toList.isPrefixOf rest
  let (_, after) ← word rest
  if after.head? == some '\'' || (after.head? == some '#' && !raw) then none
  else some (.mark '\'' true, rest)

/-- A mark, and whether another follows it directly. -/
def mark : LexemeReader Tree := do
  let c ← markChar
  require (c != '\'')
  return .mark c ((fun s => (markChar s).isSome) (← get))

/-! Lexemes and trees. -/

def bracket : LexemeReader Lexeme := do
  match ← next with
  | '(' => return .opening .parentheses
  | '[' => return .opening .brackets
  | '\x7b' => return .opening .braces
  | ')' => return .closing .parentheses
  | ']' => return .closing .brackets
  | '\x7d' => return .closing .braces
  | _ => fail

/-- One lexeme, or all those of a comment that documents something. -/
def oneOrDoc : LexemeReader (List Lexeme) :=
  docComment <|>
  (do return [← bracket]) <|>
  (do return [.leaf (.literal (← literal))]) <|>
  (do return [.leaf (← mark <|> lifetimeMark)]) <|>
  (do return [.leaf (.ident (← wordLexeme))])

/-- All lexemes of a text, which may begin with a byte order mark. -/
def all : LexemeReader (List Lexeme) := do
  let _ ← optionally (exact "\ufeff")
  blanks
  let groups ← many (do
    let found ← oneOrDoc
    blanks
    return found)
  atEnd
  return groups.flatten

end Lexeme

/-- Groups under construction: the outer ones with their brackets, and the trees of the innermost,
last tree first. -/
structure Nesting where
  outer : List (Delimiter × List Tree)
  inner : List Tree

/-- Takes in a lexeme. A bracket has to close the group that is open. -/
def Nesting.step (n : Nesting) : Lexeme → Option Nesting
  | .leaf tree => some { n with inner := tree :: n.inner }
  | .opening d => some ⟨(d, n.inner) :: n.outer, []⟩
  | .closing d =>
    match n.outer with
    | (d', trees) :: outer =>
      if d = d' then some ⟨outer, .group d n.inner.reverse :: trees⟩ else none
    | [] => none

def treesOf? (text : String) : Option (List Tree) := do
  let found ← readAll? Lexeme.all text.toList
  let n ← found.foldlM Nesting.step ⟨[], []⟩
  if n.outer.isEmpty then some n.inner.reverse else none

end FactGrammar.Derive
