import FactGrammar.Pattern.Rule
import FactGrammar.Record.Value

namespace FactGrammar.Academic

/-- The characters that open or close a quotation; any of them closes what any of them opened. -/
def quoteMarks : List String := ["\"", "'", "«", "»", "„", "“", "”"]

/-- The characters that join two parts of a phrase. -/
def hyphenMarks : List String := ["-", "—", "–"]

def quote : Rule := .literal (.ofTexts quoteMarks)

def hyphen : Rule := .literal (.ofNormals hyphenMarks)

/-- A run of tokens, at least one, that are not quotation marks. -/
def unquotedRun : Rule := (Rule.negation (.reference "quote")).oneOrMore

/-- A phrase between quotation marks. -/
def quoted : Rule := .sequence [.reference "quote", unquotedRun, .reference "quote"]

structure Speciality where
  /-- Three integers with points between them. -/
  code : Option String
  /-- What stands between code and name. -/
  hyphen : Option String
  name : String
  deriving DecidableEq, Inhabited

namespace Speciality

def schema : Schema where
  name := "Speciality"
  fields := [.text "code", .text "hyphen", (FieldSpec.text "name").mandatory]

def ofRecord (record : Record) : Except InterpretError Speciality := do
  return {
    code := record.text? "code"
    hyphen := record.text? "hyphen"
    name := ← record.requireText schema.name "name" }

instance : FactType Speciality := ⟨schema, ofRecord⟩

/-- Code, hyphen and name, as far as they are known. A hyphen counts only after a code. -/
def label (speciality : Speciality) : String :=
  match speciality.code, speciality.hyphen with
  | some code, some hyphen => code ++ " " ++ hyphen ++ " " ++ speciality.name
  | some code, none => code ++ " " ++ speciality.name
  | none, _ => speciality.name

def sentenceEnds : List String := [".", ";"]

def integers : Rule := (Rule.literal (.kind .integer)).oneOrMore

def point : Rule := .literal (.eq ".")

def codeRule : Rule :=
  .sequence [
    .interpreted (.sequence [integers, point, integers, point, integers])
      (schema.fieldBindingOf "code"),
    .interpreted (.optional (.reference "hyphen")) (schema.fieldBindingOf "hyphen")]

def quotedName : Rule :=
  .sequence [
    .reference "quote",
    .interpreted unquotedRun (schema.fieldBindingOf "name"),
    .reference "quote"]

def bareName : Rule :=
  .interpreted (Rule.negation (.literal (.ofTexts sentenceEnds))).oneOrMore
    (schema.fieldBindingOf "name")

def rule : Rule :=
  .interpreted (.sequence [.optional codeRule, .alternative [quotedName, bareName]]) schema.binding

end Speciality

end FactGrammar.Academic
