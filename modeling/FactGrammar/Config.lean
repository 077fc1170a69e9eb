import FactGrammar.Toml.Document

namespace FactGrammar

open Toml (DocumentError)

inductive OutputFormat where
  | xml
  | json
  deriving DecidableEq, Inhabited, Repr

namespace OutputFormat

def name : OutputFormat → String
  | xml => "xml"
  | json => "json"

def names : List String := [xml.name, json.name]

def ofName? : String → Option OutputFormat
  | "xml" => some xml
  | "json" => some json
  | _ => none

def ofVariant (name : String) : Except DocumentError OutputFormat :=
  match ofName? name with
  | some format => .ok format
  | none => .error (.unknownVariant name names)

/-- Whether a value holds nothing. -/
def isEmptyValue : Toml → Bool
  | .array [] => true
  | .table [] => true
  | _ => false

/-- The form that a value is: its name, or a table that has its name as only key and nothing under
it. -/
def ofValue : Toml → Except DocumentError OutputFormat
  | .string name => ofVariant name
  | .table [(name, value)] => do
    let format ← ofVariant name
    if isEmptyValue value then .ok format else .error .malformed
  | _ => .error .malformed

end OutputFormat

structure Config where
  /-- The name of the source of the text. -/
  url : Option String
  /-- The path of a further lexicon. -/
  lexicon : Option String
  format : OutputFormat
  deriving DecidableEq, Inhabited, Repr

namespace Config

def default : Config := ⟨none, none, .xml⟩

def keys : List String := ["url", "lexicon", "format"]

def add (config : Config) (key : String) (value : Toml) : Except DocumentError Config :=
  match key with
  | "url" => do return { config with url := some (← value.asString) }
  | "lexicon" => do return { config with lexicon := some (← value.asString) }
  | "format" => do return { config with format := ← OutputFormat.ofValue value }
  | _ => .error (.unknownField key keys)

/-- The settings that a text is. Every key may be missing, and no other key may be there. -/
def ofToml (text : String) : Except DocumentError Config := do
  (← Toml.parse text).foldlM (fun config (key, value) => config.add key value) default

end Config

end FactGrammar
