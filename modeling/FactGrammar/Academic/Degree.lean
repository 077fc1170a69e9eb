import FactGrammar.Pattern.Rule
import FactGrammar.Record.Value

namespace FactGrammar.Academic

structure Branch where
  name : String
  deriving DecidableEq, Inhabited

namespace Branch

def schema : Schema where
  name := "Branch"
  fields := [(FieldSpec.text "name").normalized.mandatory]

def ofRecord (record : Record) : Except InterpretError Branch := do
  return { name := ← record.requireText schema.name "name" }

instance : FactType Branch := ⟨schema, ofRecord⟩

end Branch

structure AcademicDegree where
  degree : String
  branch : Branch
  /-- The word after the branch. -/
  suffix : String
  deriving DecidableEq, Inhabited

namespace AcademicDegree

def schema : Schema where
  name := "AcademicDegree"
  fields := [
    (FieldSpec.text "degree").normalized.mandatory,
    (FieldSpec.nested "branch").mandatory,
    (FieldSpec.text "suffix").mandatory]

def ofRecord (record : Record) : Except InterpretError AcademicDegree := do
  return {
    degree := ← record.requireText schema.name "degree"
    branch := ← Branch.ofRecord (← record.requireRecord schema.name "branch")
    suffix := ← record.requireText schema.name "suffix" }

instance : FactType AcademicDegree := ⟨schema, ofRecord⟩

def sciences : String := "наук"

def degreeWord : Rule :=
  .alternative [.literal (.normalized "кандидат"), .literal (.normalized "доктор")]

/-- A run of tokens up to the word that ends a degree. -/
def branchRule : Rule :=
  .interpreted
    (.interpreted (Rule.negation (.literal (.eq sciences))).oneOrMore
      (Branch.schema.fieldBindingOf "name"))
    Branch.schema.binding

/-- The word for a degree, the branch, and the word that ends a degree. -/
def rule : Rule :=
  .interpreted
    (.sequence [
      .interpreted degreeWord (schema.fieldBindingOf "degree"),
      .interpreted branchRule (schema.fieldBindingOf "branch"),
      .interpreted (.literal (.eq sciences)) (schema.fieldBindingOf "suffix")])
    schema.binding

end AcademicDegree

end FactGrammar.Academic
