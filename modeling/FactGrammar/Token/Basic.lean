import FactGrammar.Text.Lowercase
import FactGrammar.Text.TextSet

namespace FactGrammar

open Text

inductive TokenKind where
  /-- A run of Cyrillic letters. -/
  | russian
  /-- A run of ASCII letters. -/
  | latin
  /-- A run of ASCII digits. -/
  | integer
  /-- One punctuation or symbol character. -/
  | punctuation
  /-- A run of letters of mixed or other scripts. -/
  | other
  deriving DecidableEq, Inhabited, Repr

def TokenKind.name : TokenKind → String
  | .russian => "RU"
  | .latin => "LATIN"
  | .integer => "INT"
  | .punctuation => "PUNCT"
  | .other => "OTHER"

/-- A piece of a text with its tags. The offsets count UTF-8 bytes. -/
structure Token where
  start : Nat
  stop : Nat
  text : String
  kind : TokenKind
  pos : Option String
  normal : String
  grams : TextSet
  deriving DecidableEq, Inhabited

namespace Token

/-- A token that no lexicon has tagged: its small form stands for the dictionary form. -/
def untagged (start stop : Nat) (text : String) (kind : TokenKind) : Token where
  start := start
  stop := stop
  text := text
  kind := kind
  pos := none
  normal := lowercase text
  grams := .empty

def hasGram (token : Token) (gram : String) : Bool :=
  token.grams.contains gram

def display (token : Token) : String :=
  token.text ++ "[" ++ toString token.start ++ ".." ++ toString token.stop ++ "]:" ++
    token.kind.name

/-- What follows a token that ended at `stop`: a space stands wherever tokens were apart. -/
def joinAfter (form : Token → String) (stop : Nat) : List Token → String
  | [] => ""
  | token :: rest =>
    (if stop < token.start then " " else "") ++ form token ++ joinAfter form token.stop rest

/-- One form of each token, glued where tokens touched and spaced where they did not. -/
def join (form : Token → String) : List Token → String
  | [] => ""
  | token :: rest => form token ++ joinAfter form token.stop rest

theorem join_singleton (form : Token → String) (token : Token) : join form [token] = form token :=
  String.append_empty

theorem join_cons_cons (form : Token → String) (first second : Token) (rest : List Token) :
    join form (first :: second :: rest) =
      form first ++ ((if first.stop < second.start then " " else "") ++
        join form (second :: rest)) := by
  rw [join, joinAfter, join, String.append_assoc]

end Token

end FactGrammar
