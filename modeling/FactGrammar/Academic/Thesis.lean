import FactGrammar.Academic.Degree
import FactGrammar.Academic.Speciality

namespace FactGrammar.Academic

structure Thesis where
  kind : Option String
  title : String
  speciality : Option Speciality
  degree : Option AcademicDegree
  deriving DecidableEq, Inhabited

namespace Thesis

def schema : Schema where
  name := "Thesis"
  fields := [
    .text "kind", (FieldSpec.text "title").mandatory, .nested "speciality", .nested "degree"]

def ofRecord (record : Record) : Except InterpretError Thesis := do
  return {
    kind := record.text? "kind"
    title := ← record.requireText schema.name "title"
    speciality := ← (record.record? "speciality").mapM Speciality.ofRecord
    degree := ← (record.record? "degree").mapM AcademicDegree.ofRecord }

instance : FactType Thesis := ⟨schema, ofRecord⟩

def kinds : List String := ["кандидатский", "докторский", "магистерский"]

def directions : List String := ["направление", "специальность"]

/-- The words at which the search for a degree stops. -/
def degreeWords : List String := ["кандидата", "доктора"]

/-- A title between quotation marks, perhaps after other words. -/
def titleRule : Rule :=
  .sequence [
    .optional unquotedRun,
    .reference "quote",
    .interpreted unquotedRun (schema.fieldBindingOf "title"),
    .reference "quote"]

def headRule : Rule :=
  .interpreted
    (.sequence [
      .interpreted (.optional (.literal (.ofNormals kinds))) (schema.fieldBindingOf "kind"),
      .literal (.normalized "диссертация"),
      titleRule])
    schema.binding

/-- A token that the search for a degree passes over. It never passes the end of a sentence. -/
def degreeSkip : Rule :=
  .negation
    (.literal ((Predicate.ofTextsCaseless degreeWords).or (.ofTexts Speciality.sentenceEnds)))

/-- A degree, perhaps after other words. -/
def degreeRule : Rule :=
  .sequence [
    degreeSkip.zeroOrMore,
    .interpreted (.reference "academic_degree") (schema.fieldBindingOf "degree")]

def tailRule : Rule :=
  .sequence [
    .optional degreeRule,
    .literal (.eq "по"),
    .literal (.ofNormals directions),
    .interpreted (.reference "speciality") (schema.fieldBindingOf "speciality")]

def rule : Rule :=
  .interpreted (.sequence [headRule, .optional tailRule]) schema.binding

end Thesis

end FactGrammar.Academic
