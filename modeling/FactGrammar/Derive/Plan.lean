import FactGrammar.Derive.FactOption

namespace FactGrammar.Derive

inductive DeriveError where
  /-- An attribute is not made like an option, with what its reader says about it. -/
  | malformedAttribute (reason : String)
  /-- An attribute lists no options. -/
  | noOptionList
  | nameNotString
  | unknownOption (option : FactOption)
  | notStruct
  | unnamedFields
  /-- A field that holds no text was to be normalized. -/
  | normalizedNested (field : String)

def DeriveError.message : DeriveError → String
  | malformedAttribute reason => "Derive error: syn error: " ++ reason
  | noOptionList => "Derive error: expected #[fact(...)]"
  | nameNotString => "Derive error: fact name not a string"
  | unknownOption option => "Unknown fact option: " ++ option.text
  | notStruct => "Fact can only be derived for structs"
  | unnamedFields => "Fact can only be derived for structs with named fields"
  | normalizedNested field => "Nested fact field '" ++ field ++ "' cannot be normalized"

inductive FieldContent where
  | text
  | nested (type : TypeExpr)

structure FieldPlan where
  ident : Ident
  content : FieldContent
  isRequired : Bool
  isNormalized : Bool

def FieldPlan.name (f : FieldPlan) : String := f.ident.name

structure Plan where
  ident : Ident
  params : List (Param × Bool)
  conditions : List Tree
  factName : String
  fields : List FieldPlan

namespace TypeExpr

/-- The type of a value that may be missing, if a type is one for such values. -/
def optional? : TypeExpr → Option TypeExpr
  | path _ ⟨"Option", false⟩ (.angled [.type t]) => some t
  | _ => none

def isText : TypeExpr → Bool
  | path _ ⟨"String", false⟩ arguments => arguments.isEmpty
  | _ => false

end TypeExpr

section

-- What is said about an attribute that cannot be read is up to its reader.
variable (explain : Attribute → String)

def Attribute.options (a : Attribute) : Except DeriveError (List FactOption) :=
  match a.option? with
  | some (.list _ options _) => .ok options
  | some _ => .error .noOptionList
  | none => .error (.malformedAttribute (explain a))

/-- The options in all attributes of a fact. Other attributes do not count. -/
def factOptions (attributes : List Attribute) : Except DeriveError (List FactOption) := do
  return (← (attributes.filter Attribute.isFact).mapM (Attribute.options explain)).flatten

/-- The name of a fact, given the name before an option. -/
def renamed (_ : String) (option : FactOption) : Except DeriveError String :=
  match option with
  | .assignment path value =>
    if path.isWord "name" then
      match value.value with
      | some name => .ok name
      | none => .error .nameNotString
    else .error (.unknownOption option)
  | _ => .error (.unknownOption option)

/-- The name of the fact that an item describes: the last that an option gives, or else its own. -/
def Item.factName (item : Item) : Except DeriveError String := do
  (← factOptions explain item.attributes).foldlM renamed item.name.text

/-- Fails unless an option is the one for normalized text. -/
def requireNormalized (option : FactOption) : Except DeriveError Unit :=
  match option with
  | .word path =>
    if path.isWord "normalized" then .ok () else .error (.unknownOption option)
  | _ => .error (.unknownOption option)

def Field.plan (f : Field) : Except DeriveError FieldPlan := do
  let options ← factOptions explain f.attributes
  options.forM requireNormalized
  let isNormalized := !options.isEmpty
  let type := f.type.optional?.getD f.type
  let isRequired := f.type.optional?.isNone
  if type.isText then return ⟨f.name, .text, isRequired, isNormalized⟩
  else if isNormalized then throw (.normalizedNested f.name.name)
  else return ⟨f.name, .nested type, isRequired, false⟩

def Body.plans : Body → Except DeriveError (List FieldPlan)
  | named fields => fields.mapM (Field.plan explain)
  | unnamed => throw .unnamedFields
  | notStruct => throw .notStruct

def Item.plan (item : Item) : Except DeriveError Plan := do
  let factName ← item.factName explain
  return ⟨item.name, item.params, item.conditions, factName, ← item.body.plans explain⟩

end

end FactGrammar.Derive
