import FactGrammar.Pattern.Rule
import FactGrammar.Record.Value

namespace FactGrammar.Academic

/-- The name of a person, of which any part may be missing. -/
structure PersonName where
  first : Option String
  middle : Option String
  last : Option String
  deriving DecidableEq, Inhabited

namespace PersonName

def schema : Schema where
  name := "Name"
  fields := [.text "first", .text "middle", .text "last"]

def ofRecord (record : Record) : Except InterpretError PersonName :=
  .ok {
    first := record.text? "first"
    middle := record.text? "middle"
    last := record.text? "last" }

instance : FactType PersonName := ⟨schema, ofRecord⟩

/-- Last, first and middle part, as far as they are known. A name without a first part has no full
form. -/
def fullName (name : PersonName) : Option String :=
  name.first.map fun first =>
    " ".intercalate (name.last.toList ++ [first] ++ name.middle.toList)

def part (gram : String) (binding : Binding) : Rule :=
  .interpreted (.literal ((Predicate.gram gram).and .capitalized)) binding

def firstPart : Rule := part "Name" (schema.fieldBindingOf "first")

def middlePart : Rule := part "Patr" (schema.fieldBindingOf "middle")

def lastPart : Rule := part "Surn" (schema.fieldBindingOf "last")

/-- A surname before a given name and perhaps a patronymic, or a given name with perhaps a
patronymic and perhaps a surname after it, or a surname alone. -/
def rule : Rule :=
  .interpreted
    (.alternative [
      .sequence [lastPart, firstPart, .optional middlePart],
      .sequence [firstPart, .optional middlePart, .optional lastPart],
      lastPart])
    schema.binding

end PersonName

end FactGrammar.Academic
