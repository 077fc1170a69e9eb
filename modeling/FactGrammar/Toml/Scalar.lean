import FactGrammar.Reader
import FactGrammar.Toml.Value

namespace FactGrammar.Toml

open Reader

abbrev CharReader := Reader Char

def char (c : Char) : CharReader Unit := exactly [c]

def keyword (s : String) : CharReader Unit := exactly s.toList

def isBlank (c : Char) : Bool := c == ' ' || c == '\t'

/-- Whether a comment may hold a character. Other controls than tabs are refused. -/
def isCommentChar (c : Char) : Bool := c == '\t' || (0x20 ≤ c.toNat && c.toNat != 0x7F)

def blanks : CharReader Unit := do
  let _ ← takeWhile isBlank

def newline : CharReader Unit := char '\n' <|> exactly ['\r', '\n']

def comment : CharReader Unit := do
  char '#'
  let _ ← takeWhile isCommentChar

def blankLines : CharReader Unit := do
  let _ ← many ((do let _ ← takeWhile1 isBlank) <|> newline <|> (do comment; newline))

def hexValue? (c : Char) : Option Nat :=
  if c.isDigit then some (c.toNat - '0'.toNat)
  else if 'a' ≤ c ∧ c ≤ 'f' then some (c.toNat - 'a'.toNat + 10)
  else if 'A' ≤ c ∧ c ≤ 'F' then some (c.toNat - 'A'.toNat + 10)
  else none

def digitsValue (base : Nat) (digits : List Char) : Nat :=
  digits.foldl (fun n c => n * base + (hexValue? c).getD 0) 0

def codePoint? (digits : List Char) : Option Char :=
  if digits.all fun c => (hexValue? c).isSome then
    let n := digitsValue 16 digits
    if n.isValidChar then some (Char.ofNat n) else none
  else none

def shortEscape? : Char → Option Char
  | 'b' => some '\x08'
  | 'f' => some '\x0c'
  | 'n' => some '\n'
  | 'r' => some '\r'
  | 't' => some '\t'
  | '"' => some '"'
  | '\\' => some '\\'
  | _ => none

/-- Whether a string may hold a character as it is, its delimiters and backslashes apart. -/
def isStringChar (c : Char) : Bool := isCommentChar c

/-- Puts a character before what a reader of strings has taken. -/
def prepend (c : Char) (r : Option (List Char × List Char)) : Option (List Char × List Char) :=
  r.map fun (cs, rest) => (c :: cs, rest)

def basicRest : List Char → Option (List Char × List Char)
  | '"' :: rest => some ([], rest)
  | '\\' :: 'u' :: a :: b :: c :: d :: rest => do
    prepend (← codePoint? [a, b, c, d]) (basicRest rest)
  | '\\' :: 'U' :: a :: b :: c :: d :: e :: f :: g :: h :: rest => do
    prepend (← codePoint? [a, b, c, d, e, f, g, h]) (basicRest rest)
  | '\\' :: c :: rest => do prepend (← shortEscape? c) (basicRest rest)
  | c :: rest => if isStringChar c then prepend c (basicRest rest) else none
  | [] => none

def literalRest : List Char → Option (List Char × List Char)
  | '\'' :: rest => some ([], rest)
  | c :: rest => if isStringChar c then prepend c (literalRest rest) else none
  | [] => none

/-- Where a string of several lines stands with respect to a backslash at the end of a line. -/
inductive LineEnd where
  | outside
  /-- Behind a backslash that an end of line has to follow. -/
  | expected
  /-- Behind that end of line, where blanks and further ends of lines are dropped. -/
  | passed
  deriving DecidableEq

/-- The rest of a basic string of several lines after its opening quotation marks. Up to two
quotation marks may stand before the three that close it. -/
def basicLinesRest : LineEnd → List Char → Option (List Char × List Char)
  | .expected, '\n' :: rest => basicLinesRest .passed rest
  | .expected, '\r' :: '\n' :: rest => basicLinesRest .passed rest
  | .expected, c :: rest => if isBlank c then basicLinesRest .expected rest else none
  | .passed, ' ' :: rest => basicLinesRest .passed rest
  | .passed, '\t' :: rest => basicLinesRest .passed rest
  | .passed, '\n' :: rest => basicLinesRest .passed rest
  | .passed, '\r' :: '\n' :: rest => basicLinesRest .passed rest
  | _, '"' :: '"' :: '"' :: '"' :: '"' :: rest => some (['"', '"'], rest)
  | _, '"' :: '"' :: '"' :: '"' :: rest => some (['"'], rest)
  | _, '"' :: '"' :: '"' :: rest => some ([], rest)
  | _, '\r' :: '\n' :: rest => prepend '\n' (basicLinesRest .outside rest)
  | _, '\n' :: rest => prepend '\n' (basicLinesRest .outside rest)
  | _, '\\' :: '\n' :: rest => basicLinesRest .passed rest
  | _, '\\' :: '\r' :: '\n' :: rest => basicLinesRest .passed rest
  | _, '\\' :: ' ' :: rest => basicLinesRest .expected rest
  | _, '\\' :: '\t' :: rest => basicLinesRest .expected rest
  | _, '\\' :: 'u' :: a :: b :: c :: d :: rest => do
    prepend (← codePoint? [a, b, c, d]) (basicLinesRest .outside rest)
  | _, '\\' :: 'U' :: a :: b :: c :: d :: e :: f :: g :: h :: rest => do
    prepend (← codePoint? [a, b, c, d, e, f, g, h]) (basicLinesRest .outside rest)
  | _, '\\' :: c :: rest => do prepend (← shortEscape? c) (basicLinesRest .outside rest)
  | _, c :: rest => if isStringChar c then prepend c (basicLinesRest .outside rest) else none
  | _, [] => none

def literalLinesRest : List Char → Option (List Char × List Char)
  | '\'' :: '\'' :: '\'' :: '\'' :: '\'' :: rest => some (['\'', '\''], rest)
  | '\'' :: '\'' :: '\'' :: '\'' :: rest => some (['\''], rest)
  | '\'' :: '\'' :: '\'' :: rest => some ([], rest)
  | '\r' :: '\n' :: rest => prepend '\n' (literalLinesRest rest)
  | '\n' :: rest => prepend '\n' (literalLinesRest rest)
  | c :: rest => if isStringChar c then prepend c (literalLinesRest rest) else none
  | [] => none

def lineString : CharReader String := fun s =>
  match s with
  | '"' :: rest => (basicRest rest).map fun (cs, rest) => (String.ofList cs, rest)
  | '\'' :: rest => (literalRest rest).map fun (cs, rest) => (String.ofList cs, rest)
  | _ => none

/-- A string of several lines. An end of line right after the opening marks does not count. -/
def linesString : CharReader String := do
  let read ←
    (do keyword "\"\"\""; pure (basicLinesRest .outside)) <|>
    (do keyword "'''"; pure literalLinesRest)
  let _ ← optionally newline
  return String.ofList (← read)

def anyString : CharReader String := linesString <|> lineString

/-- Digits that pass a test, with single underscores between them, which are dropped. -/
def digitRun (isDigit : Char → Bool) : CharReader (List Char) := do
  let first ← satisfy isDigit
  let rest ← many (satisfy isDigit <|> (do char '_'; satisfy isDigit))
  return first :: rest

def sign : CharReader Bool := do
  match ← optionally (satisfy fun c => c == '+' || c == '-') with
  | some c => return c == '-'
  | none => return false

/-- Decimal digits without needless zeros in front. -/
def decimalDigits : CharReader (List Char) := do
  match ← peek? with
  | some '0' => char '0'; return ['0']
  | _ => digitRun Char.isDigit

/-- An integer from a magnitude, if it fits into 64 bits. -/
def integerOf (negative : Bool) (magnitude : Nat) : CharReader Toml :=
  if magnitude < 0x8000000000000000 then
    pure (.integer (if negative then -magnitude else magnitude))
  else if negative ∧ magnitude = 0x8000000000000000 then pure (.integer (-magnitude))
  else fail

def basedInteger (mark : String) (base : Nat) : CharReader Toml := do
  keyword mark
  let digits ← digitRun fun c => (hexValue? c).any (· < base)
  integerOf false (digitsValue base digits)

def integerValue : CharReader Toml :=
  basedInteger "0x" 16 <|> basedInteger "0o" 8 <|> basedInteger "0b" 2 <|> do
    let negative ← sign
    integerOf negative (digitsValue 10 (← decimalDigits))

/-- Whether `magnitude · 10 ^ exponent` is too large for a 64-bit float: it rounds to infinity from
half a unit above the largest finite value on. -/
def overflowsFloat (magnitude : Nat) (exponent : Int) : Bool :=
  let bound := Nat.pow 2 1024 - Nat.pow 2 970
  let size : Int := (Nat.toDigits 10 magnitude).length + exponent
  if magnitude = 0 ∨ size < 300 then false
  else if 320 < size then true
  else if 0 ≤ exponent then decide (bound ≤ magnitude * Nat.pow 10 exponent.toNat)
  else decide (bound * Nat.pow 10 (-exponent).toNat ≤ magnitude)

def floatExponent : CharReader Int := do
  let _ ← satisfy fun c => c == 'e' || c == 'E'
  let negative ← sign
  let n := digitsValue 10 (← digitRun Char.isDigit)
  return if negative then -n else n

def floatFraction : CharReader (List Char) := do
  char '.'
  digitRun Char.isDigit

/-- A float in digits. It must not be so large that it counts as infinite, while a negative one
may. -/
def decimalFloat : CharReader Unit := do
  let negative ← sign
  let whole ← decimalDigits
  let (fraction, exponent) ←
    (do return ([], ← floatExponent)) <|>
    (do return (← floatFraction, (← optionally floatExponent).getD 0))
  if !negative && overflowsFloat (digitsValue 10 (whole ++ fraction))
      (exponent - fraction.length) then fail

def specialFloat : CharReader Unit := do
  let _ ← sign
  keyword "inf" <|> keyword "nan"

def withText (p : CharReader Unit) (make : String → Toml) : CharReader Toml := fun s =>
  (p s).map fun (_, rest) => (make (String.ofList (s.take (s.length - rest.length))), rest)

def floatValue : CharReader Toml := withText (decimalFloat <|> specialFloat) .float

def fixedDigits (n min max : Nat) : CharReader Nat := do
  let digits ← upTo (satisfy Char.isDigit) n
  let v := digitsValue 10 digits
  if digits.length = n ∧ min ≤ v ∧ v ≤ max then return v else fail

def daysOfMonth (year month : Nat) : Nat :=
  if month = 2 then
    if year % 4 = 0 ∧ (year % 100 ≠ 0 ∨ year % 400 = 0) then 29 else 28
  else if month = 4 ∨ month = 6 ∨ month = 9 ∨ month = 11 then 30
  else 31

def fullDate : CharReader Unit := do
  let year ← fixedDigits 4 0 9999
  char '-'
  let month ← fixedDigits 2 1 12
  char '-'
  let _ ← fixedDigits 2 1 (daysOfMonth year month)

def partialTime : CharReader Unit := do
  let _ ← fixedDigits 2 0 23
  char ':'
  let _ ← fixedDigits 2 0 59
  char ':'
  let _ ← fixedDigits 2 0 60
  let _ ← optionally (do char '.'; takeWhile1 Char.isDigit)

def timeOffset : CharReader Unit :=
  (do let _ ← satisfy fun c => c == 'Z' || c == 'z') <|> do
    let _ ← satisfy fun c => c == '+' || c == '-'
    let _ ← fixedDigits 2 0 23
    char ':'
    let _ ← fixedDigits 2 0 59

def timeAfterDate : CharReader Unit := do
  let _ ← satisfy fun c => c == 'T' || c == 't' || c == ' '
  partialTime
  let _ ← optionally timeOffset

def datetimeValue : CharReader Toml :=
  withText ((do fullDate; let _ ← optionally timeAfterDate) <|> partialTime) .datetime

def booleanValue : CharReader Toml :=
  (do keyword "true"; pure (.boolean true)) <|> (do keyword "false"; pure (.boolean false))

def scalar : CharReader Toml :=
  (do return .string (← anyString)) <|> datetimeValue <|> floatValue <|> integerValue <|>
    booleanValue

end FactGrammar.Toml
