namespace FactGrammar.Text

def fitsInt64 (v : Int) : Bool :=
  Int64.minValue.toInt ≤ v && v ≤ Int64.maxValue.toInt

def digitValue? (c : Char) : Option Nat :=
  if c.isDigit then some (c.toNat - '0'.toNat) else none

/-- Reads digits into `acc`, away from zero when `negative`, and gives up at the first value that
does not fit. -/
def readDigits (negative : Bool) (acc : Int) : List Char → Option Int
  | [] => some acc
  | c :: rest => do
    let d ← digitValue? c
    let next := if negative then acc * 10 - d else acc * 10 + d
    if fitsInt64 next then readDigits negative next rest else none

def readMagnitude (negative : Bool) : List Char → Option Int
  | [] => none
  | cs => readDigits negative 0 cs

/-- Reads an optional sign and the digits after it. -/
def readNumeral : List Char → Option Int
  | '-' :: rest => readMagnitude true rest
  | '+' :: rest => readMagnitude false rest
  | cs => readMagnitude false cs

/-- The signed 64-bit integer that a text denotes, if it is nothing else than a numeral. -/
def readInt64 (s : String) : Option Int64 :=
  (readNumeral s.toList).map Int64.ofInt

end FactGrammar.Text
