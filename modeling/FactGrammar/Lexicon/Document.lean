import FactGrammar.Lexicon.Basic
import FactGrammar.Toml.Document

namespace FactGrammar

namespace Lexicon

open Toml (DocumentError)

/-- An entry of which some keys have been read. -/
structure PartialEntry where
  forms : Option (List String)
  normal : Option String
  pos : Option String
  grams : Text.TextSet

namespace PartialEntry

def start : PartialEntry := ⟨none, none, none, .empty⟩

def add (p : PartialEntry) (key : String) (value : Toml) : Except DocumentError PartialEntry :=
  match key with
  | "forms" => do return { p with forms := some (← value.asStrings) }
  | "normal" => do return { p with normal := some (← value.asString) }
  | "pos" => do return { p with pos := some (← value.asString) }
  | "grams" => do return { p with grams := .ofList (← value.asStrings) }
  | _ => .ok p

def finish (p : PartialEntry) : Except DocumentError Entry :=
  match p.forms, p.normal with
  | none, _ => .error (.missingField "forms")
  | some _, none => .error (.missingField "normal")
  | some forms, some normal => .ok ⟨forms, normal, p.pos, p.grams⟩

end PartialEntry

/-- The entry that a table is. -/
def entryOfTable (entries : List (String × Toml)) : Except DocumentError Entry := do
  let p ← entries.foldlM (fun p (key, value) => p.add key value) PartialEntry.start
  p.finish

/-- The entry that a list of its parts is. -/
def entryOfParts (parts : List Toml) : Except DocumentError Entry := do
  let keys := ["forms", "normal", "pos", "grams"]
  let p ← (keys.zip parts).foldlM (fun p (key, value) => p.add key value) PartialEntry.start
  match p.forms, p.normal with
  | some _, some _ => p.finish
  | _, _ => .error .malformed

/-- The entry that a value is. A date counts as a table without any of the keys. -/
def entryOfValue : Toml → Except DocumentError Entry
  | .table entries => entryOfTable entries
  | .array parts => entryOfParts parts
  | .datetime _ => entryOfTable []
  | _ => .error .malformed

def entriesOfDocument (document : List (String × Toml)) : Except DocumentError (List Entry) :=
  match document.lookup "entry" with
  | some value => do (← value.asArray).mapM entryOfValue
  | none => .ok []

inductive ReadError where
  | document (error : DocumentError)
  | entry (error : EntryError)
  deriving DecidableEq, Repr

/-- The lexicon that a text is: an array `entry` of tables with the keys `forms`, `normal`, `pos`
and `grams`, the last two of which may be missing. Other keys are passed over. -/
def ofToml (text : String) : Except ReadError Lexicon := do
  let document ← (Toml.parse text).mapError .document
  let entries ← (entriesOfDocument document).mapError .document
  (empty.insertAll entries).mapError .entry

end Lexicon

end FactGrammar
