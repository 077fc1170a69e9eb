import FactGrammar.Academic.Extraction
import FactGrammar.CommandLine.Arguments
import FactGrammar.Facts.Json
import FactGrammar.Facts.Xml
import FactGrammar.Lexicon.Document

namespace FactGrammar.CommandLine

inductive Failure where
  | config (path : String)
  | input (path : String)
  | standardInput
  | lexicon (path : String)
  deriving DecidableEq, Repr

def Failure.message : Failure → String
  | .config path => "loading config " ++ path
  | .input path => "reading " ++ path
  | .standardInput => "reading stdin"
  | .lexicon path => "loading lexicon " ++ path

structure Outcome where
  code : Nat
  stdout : String
  failure : Option Failure
  deriving DecidableEq, Repr

structure World (m : Type → Type) where
  /-- The bytes of the file at a path, if there is one. -/
  readFile : String → m (Option ByteArray)
  readStandardInput : m ByteArray

def versionText : String := "factex 0.1.0\n"

def helpText : String :=
  "\n".intercalate [
    "Extract academic facts from text and print them as an XML fact document",
    "",
    "Usage: factex [OPTIONS] [INPUT]",
    "",
    "Arguments:",
    "  [INPUT]  Input text file. Reads stdin when absent",
    "",
    "Options:",
    "      --config <CONFIG>    TOML config file",
    "      --lexicon <LEXICON>  Extra lexicon merged over the builtin one",
    "      --url <URL>          Document identifier. Defaults to the input path",
    "      --format <FORMAT>    [possible values: xml, json]",
    "  -h, --help               Print help",
    "  -V, --version            Print version",
    ""]

/-- The text that bytes are in UTF-8. -/
def decodeText (bytes : Option ByteArray) : Option String :=
  bytes.bind String.fromUTF8?

section

variable {m : Type → Type} [Monad m]

/-- The settings at a path, or those that hold when no path is given. -/
def loadConfig (world : World m) : Option String → ExceptT Failure m Config
  | none => pure .default
  | some path => do
    match (decodeText (← world.readFile path)).map Config.ofToml with
    | some (.ok config) => pure config
    | _ => throw (.config path)

/-- The text at a path, or the standard input when no path is given. -/
def loadText (world : World m) : Option String → ExceptT Failure m String
  | some path => do
    match decodeText (← world.readFile path) with
    | some text => pure text
    | none => throw (.input path)
  | none => do
    match decodeText (some (← world.readStandardInput)) with
    | some text => pure text
    | none => throw .standardInput

/-- The lexicon at a path, if a path is given. -/
def loadLexicon (world : World m) : Option String → ExceptT Failure m (Option Lexicon)
  | none => pure none
  | some path => do
    match (decodeText (← world.readFile path)).map Lexicon.ofToml with
    | some (.ok lexicon) => pure (some lexicon)
    | _ => throw (.lexicon path)

def document (world : World m) (a : Arguments) : ExceptT Failure m String := do
  let config ← loadConfig world a.config
  let text ← loadText world a.input
  let lexicon ← loadLexicon world (a.lexicon <|> config.lexicon)
  let facts := Academic.extract (.ofLexicon (Academic.extendedLexicon lexicon)) text
  match a.format.getD config.format with
  | .xml => return facts.toXml ((a.url <|> config.url <|> a.input).getD "")
  | .json => return facts.toJson

def run (world : World m) (arguments : List String) : m Outcome := do
  match Invocation.ofArguments arguments with
  | .version => return ⟨0, versionText, none⟩
  | .help => return ⟨0, helpText, none⟩
  | .misuse => return ⟨2, "", none⟩
  | .extraction a =>
    match ← (document world a).run with
    | .ok text => return ⟨0, text ++ "\n", none⟩
    | .error failure => return ⟨1, "", some failure⟩

end

/-- The place in a directory that a relative path leads to, as the names on the way. A path that
ends like the path of a directory leads to no file. -/
def relativeNames? (path : String) : Option (List String) :=
  let parts := path.splitOn "/"
  if path.isEmpty ∨ parts.head? = some "" ∨ parts.getLast? = some "" ∨ parts.getLast? = some "."
  then none
  else some (parts.filter fun part => part != "" && part != ".")

/-- A directory that holds some files, and nothing else to read than them and a standard input. -/
def World.ofFiles (files : List (String × ByteArray)) (standardInput : ByteArray) : World Id where
  readFile path := do
    let names ← pure (relativeNames? path)
    return names.bind fun names => files.lookup ("/".intercalate names)
  readStandardInput := pure standardInput

end FactGrammar.CommandLine
