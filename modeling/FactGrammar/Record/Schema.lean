namespace FactGrammar

/-- How the tokens of a field become its value. -/
inductive FieldMode where
  | raw
  | normal
  /-- A fact recognised inside the field. -/
  | nested
  deriving DecidableEq, Inhabited, Repr

def FieldMode.name : FieldMode → String
  | .raw => "raw"
  | .normal => "normal"
  | .nested => "nested"

/-- One field of a kind of fact. -/
structure FieldSpec where
  name : String
  mode : FieldMode
  required : Bool
  deriving DecidableEq, Inhabited, Repr

namespace FieldSpec

def text (name : String) : FieldSpec := ⟨name, .raw, false⟩

def nested (name : String) : FieldSpec := ⟨name, .nested, false⟩

def normalized (spec : FieldSpec) : FieldSpec := { spec with mode := .normal }

def mandatory (spec : FieldSpec) : FieldSpec := { spec with required := true }

end FieldSpec

/-- A kind of fact: its name and its fields in order of declaration. -/
structure Schema where
  name : String
  fields : List FieldSpec
  deriving DecidableEq, Inhabited, Repr

/-- What a rule records about the tokens it has recognised. -/
inductive Binding where
  | fact (schema : Schema)
  /-- They are the value of a field of the facts with this name. -/
  | field (fact field : String) (mode : FieldMode)
  deriving DecidableEq, Inhabited, Repr

inductive GrammarError where
  | duplicateRule (name : String)
  | unknownField (fact field : String)
  | unresolvedReference (name : String)
  deriving DecidableEq, Repr

def GrammarError.message : GrammarError → String
  | .duplicateRule name => "rule '" ++ name ++ "' is already defined"
  | .unknownField fact field => "fact '" ++ fact ++ "' has no field '" ++ field ++ "'"
  | .unresolvedReference name => "reference to undefined rule '" ++ name ++ "'"

namespace Schema

def spec? (schema : Schema) (name : String) : Option FieldSpec :=
  schema.fields.find? (·.name == name)

/-- The binding that makes a rule recognise facts of this kind. -/
def binding (schema : Schema) : Binding :=
  .fact schema

/-- The binding that stores what a rule recognises in a field. -/
def fieldBinding (schema : Schema) (name : String) : Except GrammarError Binding :=
  match schema.spec? name with
  | some spec => .ok (.field schema.name spec.name spec.mode)
  | none => .error (.unknownField schema.name name)

/-- The binding of a field that is known to be declared. -/
def fieldBindingOf (schema : Schema) (name : String)
    (declared : (schema.spec? name).isSome := by decide +kernel) : Binding :=
  let spec := (schema.spec? name).get declared
  .field schema.name spec.name spec.mode

end Schema

namespace Binding

/-- Takes dictionary forms for a field; a fact stays as it is. -/
def normalized : Binding → Binding
  | fact schema => .fact schema
  | field owner name _ => .field owner name .normal

def display : Binding → String
  | fact schema => schema.name
  | field owner name .normal => owner ++ "." ++ name ++ ".normalized"
  | field owner name _ => owner ++ "." ++ name

end Binding

end FactGrammar
