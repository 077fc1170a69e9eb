import FactGrammar.Config

namespace FactGrammar.CommandLine

/-- What the arguments ask for. Of everything that is missing the settings decide. -/
structure Arguments where
  input : Option String
  config : Option String
  lexicon : Option String
  url : Option String
  format : Option OutputFormat
  deriving DecidableEq, Inhabited, Repr

inductive Invocation where
  | extraction (arguments : Arguments)
  | version
  | help
  | misuse
  deriving DecidableEq, Inhabited, Repr

inductive OptionName where
  | config
  | lexicon
  | url
  | format
  deriving DecidableEq, Inhabited, Repr

def OptionName.ofName? : String → Option OptionName
  | "config" => some .config
  | "lexicon" => some .lexicon
  | "url" => some .url
  | "format" => some .format
  | _ => none

namespace Arguments

def start : Arguments := ⟨none, none, none, none, none⟩

def fill (place : Option α) (value : Option α) : Option (Option α) :=
  match place, value with
  | none, some a => some (some a)
  | _, _ => none

/-- A path, which has at least one character. -/
def path? (s : String) : Option String :=
  if s.isEmpty then none else some s

/-- Takes in the value of an option, which may be given only once. -/
def setOption (a : Arguments) (name : OptionName) (value : String) : Option Arguments :=
  match name with
  | .config => do return { a with config := ← fill a.config (path? value) }
  | .lexicon => do return { a with lexicon := ← fill a.lexicon (path? value) }
  | .url => do return { a with url := ← fill a.url (some value) }
  | .format => do return { a with format := ← fill a.format (OutputFormat.ofName? value) }

/-- Takes in the input, which may be given only once. -/
def setInput (a : Arguments) (value : String) : Option Arguments := do
  return { a with input := ← fill a.input (path? value) }

end Arguments

inductive Word where
  /-- Two hyphens, after which no word is an option. -/
  | endOfOptions
  /-- A long option, with its value if one is attached. -/
  | long (name : String) (value : Option String)
  /-- A hyphen and letters, the first of which is given. -/
  | short (letter : Char)
  | plain (s : String)
  deriving DecidableEq, Inhabited, Repr

/-- What is left of the equals sign, and what is right of it if there is one. -/
def splitValue (cs : List Char) : String × Option String :=
  (String.ofList (cs.takeWhile (· != '=')),
    match cs.dropWhile (· != '=') with
    | [] => none
    | _ :: value => some (String.ofList value))

/-- The kind of word that an argument is. A single hyphen is a plain word. -/
def Word.of (s : String) : Word :=
  match s.toList with
  | ['-', '-'] => .endOfOptions
  | '-' :: '-' :: rest => let (name, value) := splitValue rest; .long name value
  | '-' :: c :: _ => .short c
  | _ => .plain s

def readInputs (a : Arguments) : List String → Invocation
  | [] => .extraction a
  | s :: rest =>
    match a.setInput s with
    | some a => readInputs a rest
    | none => .misuse

mutual

/-- Reads words from left to right. -/
def readWords (a : Arguments) : List String → Invocation
  | [] => .extraction a
  | s :: rest =>
    match Word.of s with
    | .endOfOptions => readInputs a rest
    | .long "version" none => .version
    | .long "help" none => .help
    | .long name (some value) =>
      match (OptionName.ofName? name).bind (a.setOption · value) with
      | some a => readWords a rest
      | none => .misuse
    | .long name none =>
      match OptionName.ofName? name with
      | some name => readValue a name rest
      | none => .misuse
    | .short 'V' => .version
    | .short 'h' => .help
    | .short _ => .misuse
    | .plain s =>
      match a.setInput s with
      | some a => readWords a rest
      | none => .misuse

/-- Reads the value of an option, which has to be a plain word. -/
def readValue (a : Arguments) (name : OptionName) : List String → Invocation
  | [] => .misuse
  | s :: rest =>
    match Word.of s with
    | .plain value =>
      match a.setOption name value with
      | some a => readWords a rest
      | none => .misuse
    | _ => .misuse

end

def Invocation.ofArguments (arguments : List String) : Invocation :=
  readWords .start arguments

end FactGrammar.CommandLine
