import FactGrammar.Facts.Collection

namespace FactGrammar

namespace Xml

/-- Whether XML 1.0 allows a character in a document. -/
def isXmlChar (c : Char) : Bool :=
  let n := c.toNat
  n == 0x9 || n == 0xA || n == 0xD || (0x20 ≤ n && n ≤ 0xD7FF) || (0xE000 ≤ n && n ≤ 0xFFFD) ||
    (0x10000 ≤ n && n ≤ 0x10FFFF)

/-- The character itself where XML allows it. -/
def allowedChar (c : Char) : Char :=
  if isXmlChar c then c else '\ufffd'

/-- A character as it is written in the value of an attribute. -/
def escapeChar : Char → List Char
  | '&' => "&amp;".toList
  | '<' => "&lt;".toList
  | '>' => "&gt;".toList
  | '"' => "&quot;".toList
  | '\'' => "&apos;".toList
  | c => [c]

/-- A text as it is written in the value of an attribute. -/
def escape (s : String) : String :=
  String.ofList ((s.toList.map allowedChar).flatMap escapeChar)

def attributeText (name value : String) : String :=
  " " ++ name ++ "=\"" ++ escape value ++ "\""

/-- A line of the document, two spaces in for each level. -/
def line (level : Nat) (content : String) : String :=
  String.ofList (List.replicate (2 * level) ' ') ++ content

def valueLine (a : Attribute) : String :=
  line 4 ("<" ++ a.kind.name ++ attributeText "val" a.value ++ "/>")

def factLines (fact : Fact) : List String :=
  let id := toString fact.id
  [line 3 ("<Fact" ++ attributeText "FactID" id ++ attributeText "LeadID" id ++ ">")] ++
    fact.attributes.map valueLine ++ [line 3 "</Fact>"]

def factsLines (collection : FactCollection) : List String :=
  if collection.isEmpty then [line 2 "<facts/>"]
  else [line 2 "<facts>"] ++ collection.facts.toList.flatMap factLines ++ [line 2 "</facts>"]

end Xml

/-- The document of a collection that was found at `url`. -/
def FactCollection.toXml (collection : FactCollection) (url : String) : String :=
  "\n".intercalate (
    ["<?xml version=\"1.0\" encoding=\"UTF-8\"?>",
     "<fdo_objects>",
     Xml.line 1
       ("<document" ++ Xml.attributeText "url" url ++ Xml.attributeText "date" "" ++ ">")] ++
    Xml.factsLines collection ++
    [Xml.line 1 "</document>",
     "</fdo_objects>"])

end FactGrammar
