namespace FactGrammar

/-- A TOML value. Floats and dates keep the text they were written as. -/
inductive Toml where
  | string (s : String)
  | integer (n : Int)
  | float (text : String)
  | boolean (b : Bool)
  | datetime (text : String)
  | array (items : List Toml)
  /-- The keys stand in the order in which the document has introduced them. -/
  | table (entries : List (String × Toml))
  deriving Inhabited

namespace Toml

inductive DocumentError where
  /-- It is no TOML document, or a value has the wrong type. -/
  | malformed
  | missingField (name : String)
  | unknownField (name : String) (expected : List String)
  | unknownVariant (name : String) (expected : List String)
  deriving DecidableEq, Repr

def quoteName (name : String) : String :=
  "\x60" ++ name ++ "\x60"

/-- The text of an error, where it does not hang on the place in the document. -/
def DocumentError.message? : DocumentError → Option String
  | .malformed => none
  | .missingField name => some ("missing field " ++ quoteName name)
  | .unknownField name expected =>
    some ("unknown field " ++ quoteName name ++ ", expected one of " ++
      ", ".intercalate (expected.map quoteName))
  | .unknownVariant name expected =>
    some ("unknown variant " ++ quoteName name ++ ", expected " ++
      " or ".intercalate (expected.map quoteName))

def asString : Toml → Except DocumentError String
  | string s => .ok s
  | _ => .error .malformed

def asArray : Toml → Except DocumentError (List Toml)
  | array items => .ok items
  | _ => .error .malformed

def asStrings (value : Toml) : Except DocumentError (List String) := do
  (← value.asArray).mapM asString

end Toml

end FactGrammar
