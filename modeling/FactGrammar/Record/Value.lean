import FactGrammar.Record.Schema

namespace FactGrammar

/-- The fields of one fact by name, over some type of values. -/
structure RecordOf (α : Type) where
  name : String
  fields : List (String × α)
  deriving DecidableEq, Inhabited

inductive Value where
  | absent
  | text (s : String)
  | record (r : RecordOf Value)
  deriving Inhabited

/-- A fact with its fields. It keeps the fields of its schema in their order and never gains or
loses one. -/
abbrev Record := RecordOf Value

def Value.isAbsent : Value → Bool
  | absent => true
  | _ => false

/-- Puts a value in place of the first one under a name. -/
def setFirst (name : String) (value : α) : List (String × α) → List (String × α)
  | [] => []
  | (n, v) :: rest => if n = name then (n, value) :: rest else (n, v) :: setFirst name value rest

namespace Record

def empty (schema : Schema) : Record where
  name := schema.name
  fields := schema.fields.map fun spec => (spec.name, .absent)

/-- The value of a field; an unknown field is missing. -/
def get (record : Record) (field : String) : Value :=
  (record.fields.lookup field).getD .absent

def text? (record : Record) (field : String) : Option String :=
  match record.get field with
  | .text s => some s
  | _ => none

def record? (record : Record) (field : String) : Option Record :=
  match record.get field with
  | .record r => some r
  | _ => none

def hasField (record : Record) (field : String) : Bool :=
  record.fields.any (·.1 == field)

/-- Sets a field. An unknown field leaves the record as it is. -/
def set (record : Record) (field : String) (value : Value) : Record :=
  { record with fields := setFirst field value record.fields }

end Record

inductive InterpretError where
  | missingRequiredField (fact field : String)
  | noFact
  deriving DecidableEq, Repr

def InterpretError.message : InterpretError → String
  | .missingRequiredField fact field =>
    "required field '" ++ field ++ "' of fact '" ++ fact ++ "' was not captured"
  | .noFact => "match carries no fact interpretation"

/-- The text of a field, which the fact must have. -/
def Record.requireText (record : Record) (fact field : String) : Except InterpretError String :=
  match record.text? field with
  | some s => .ok s
  | none => .error (.missingRequiredField fact field)

def Record.requireRecord (record : Record) (fact field : String) : Except InterpretError Record :=
  match record.record? field with
  | some r => .ok r
  | none => .error (.missingRequiredField fact field)

/-- Types whose values are facts of one kind. -/
class FactType (α : Type) where
  schema : Schema
  ofRecord : Record → Except InterpretError α

end FactGrammar
