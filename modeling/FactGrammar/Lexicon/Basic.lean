import FactGrammar.Token.Scan

namespace FactGrammar

open Text

/-- One lexeme: its surface forms share a dictionary form, a part of speech and features. -/
structure Entry where
  forms : List String
  normal : String
  pos : Option String
  grams : TextSet
  deriving DecidableEq, Inhabited

/-- Why an entry is refused. -/
inductive EntryError where
  /-- The entry with this dictionary form lists no surface form. -/
  | noForms (normal : String)
  deriving DecidableEq, Repr

def EntryError.message : EntryError → String
  | .noForms normal => "lexicon entry for '" ++ normal ++ "' lists no forms"

/-- The entries in the order they were added, and the entry that each small surface form points to.
The newest pointer of a form stands first. -/
structure Lexicon where
  entries : Array Entry
  index : List (String × Nat)

namespace Lexicon

def empty : Lexicon := ⟨#[], []⟩

instance : Inhabited Lexicon := ⟨empty⟩

/-- The number of entries, those whose forms now point elsewhere included. -/
def size (lexicon : Lexicon) : Nat :=
  lexicon.entries.size

def isEmpty (lexicon : Lexicon) : Bool :=
  lexicon.size == 0

/-- Points the surface forms at an entry. -/
def pointForms (target : Nat) (index : List (String × Nat)) (forms : List String) :
    List (String × Nat) :=
  forms.foldl (fun index form => (lowercase form, target) :: index) index

def insert (lexicon : Lexicon) (entry : Entry) : Except EntryError Lexicon :=
  if entry.forms.isEmpty then
    .error (.noForms entry.normal)
  else
    .ok {
      entries := lexicon.entries.push entry
      index := pointForms lexicon.size lexicon.index entry.forms }

/-- Adds entries one by one and stops at the first that is refused. -/
def insertAll (lexicon : Lexicon) (entries : List Entry) : Except EntryError Lexicon :=
  entries.foldlM insert lexicon

/-- Adds an entry, or leaves the lexicon alone when the entry is refused. -/
def insertOrKeep (lexicon : Lexicon) (entry : Entry) : Lexicon :=
  match lexicon.insert entry with
  | .ok extended => extended
  | .error _ => lexicon

/-- Adds every entry of another lexicon, which wins where both know a form. -/
def merge (lexicon other : Lexicon) : Lexicon :=
  other.entries.foldl insertOrKeep lexicon

/-- The entry that a word points to, in whatever letter case it is written. -/
def lookup (lexicon : Lexicon) (word : String) : Option Entry := do
  let target ← lexicon.index.lookup (lowercase word)
  lexicon.entries[target]?

/-- Replaces dictionary form and tags of a token whose text the lexicon knows. -/
def tag (lexicon : Lexicon) (token : Token) : Token :=
  match lexicon.lookup token.text with
  | some entry => { token with normal := entry.normal, pos := entry.pos, grams := entry.grams }
  | none => token

theorem start_tag (lexicon : Lexicon) (token : Token) :
    (lexicon.tag token).start = token.start := by
  rw [tag]
  split
  · rfl
  · rfl

theorem stop_tag (lexicon : Lexicon) (token : Token) : (lexicon.tag token).stop = token.stop := by
  rw [tag]
  split
  · rfl
  · rfl

theorem text_tag (lexicon : Lexicon) (token : Token) : (lexicon.tag token).text = token.text := by
  rw [tag]
  split
  · rfl
  · rfl

/-- The tagged tokens of a text. -/
def tokenize (lexicon : Lexicon) (text : String) : List Token :=
  (scan text).map lexicon.tag

end Lexicon

end FactGrammar
