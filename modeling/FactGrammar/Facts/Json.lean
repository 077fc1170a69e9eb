import FactGrammar.Facts.Collection

namespace FactGrammar

namespace Json

def hexDigit (n : Nat) : Char :=
  if n < 10 then Char.ofNat ('0'.toNat + n) else Char.ofNat ('a'.toNat + (n - 10))

def escapeChar : Char → List Char
  | '"' => ['\\', '"']
  | '\\' => ['\\', '\\']
  | '\x08' => ['\\', 'b']
  | '\x0c' => ['\\', 'f']
  | '\n' => ['\\', 'n']
  | '\r' => ['\\', 'r']
  | '\t' => ['\\', 't']
  | c =>
    if c.toNat < 0x20 then
      ['\\', 'u', '0', '0', hexDigit (c.toNat / 16), hexDigit (c.toNat % 16)]
    else [c]

/-- A text between quotation marks. -/
def string (s : String) : String :=
  "\"" ++ String.ofList (s.toList.flatMap escapeChar) ++ "\""

/-- Lines one level further in. -/
def indent (lines : List String) : List String :=
  lines.map ("  " ++ ·)

/-- Puts a text behind the last line. -/
def behind (mark : String) : List String → List String
  | [] => []
  | [last] => [last ++ mark]
  | line :: rest => line :: behind mark rest

/-- Blocks of lines with a comma behind each but the last. -/
def separate : List (List String) → List String
  | [] => []
  | [block] => block
  | block :: rest => behind "," block ++ separate rest

/-- Blocks between two brackets, the first of which may follow a key. -/
def enclose (opening closing : String) : List (List String) → List String
  | [] => [opening ++ closing]
  | blocks => [opening] ++ indent (separate blocks) ++ [closing]

def member (key value : String) : List String :=
  [string key ++ ": " ++ value]

def attributeLines (a : Attribute) : List String :=
  enclose "\x7b" "\x7d" [member "kind" (string a.kind.name), member "value" (string a.value)]

def factLines (fact : Fact) : List String :=
  enclose "\x7b" "\x7d" [
    member "id" (toString fact.id),
    enclose (string "attributes" ++ ": [") "]" (fact.attributes.map attributeLines)]

end Json

def FactCollection.toJson (collection : FactCollection) : String :=
  "\n".intercalate (
    Json.enclose "\x7b" "\x7d" [
      Json.enclose (Json.string "facts" ++ ": [") "]"
        (collection.facts.toList.map Json.factLines)])

end FactGrammar
