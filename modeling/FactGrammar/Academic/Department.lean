import FactGrammar.Pattern.Rule
import FactGrammar.Record.Value

namespace FactGrammar.Academic

/-- A department, with the position somebody holds there. -/
structure Department where
  /-- The kind of unit and its quoted name, as they are written. -/
  definition : String
  position : Option String
  deriving DecidableEq, Inhabited

namespace Department

def schema : Schema where
  name := "Department"
  fields := [(FieldSpec.text "definition").mandatory, (FieldSpec.text "position").normalized]

def ofRecord (record : Record) : Except InterpretError Department := do
  return {
    definition := ← record.requireText schema.name "definition"
    position := record.text? "position" }

instance : FactType Department := ⟨schema, ofRecord⟩

def units : List String := ["кафедра", "отдел"]

def positions : List String := ["доцент", "аспирант", "ассистент", "профессор"]

/-- A unit with its quoted name, then perhaps a hyphen and a position. -/
def rule : Rule :=
  .interpreted
    (.sequence [
      .interpreted (.sequence [.literal (.ofNormals units), .reference "quoted"])
        (schema.fieldBindingOf "definition"),
      .optional (.sequence [
        .reference "hyphen",
        .interpreted (.literal (.ofNormals positions)) (schema.fieldBindingOf "position")])])
    schema.binding

end Department

end FactGrammar.Academic
