import FactGrammar.Text.Classes
import FactGrammar.Token.Basic

namespace FactGrammar

open Text

def isCyrillic (c : Char) : Bool :=
  0x400 ≤ c.toNat && c.toNat ≤ 0x52F

/-- The class of a run of letters. -/
def wordKind (letters : List Char) : TokenKind :=
  if letters.all isCyrillic then .russian
  else if letters.all Char.isAlpha then .latin
  else .other

/-- The class and the characters of the token that begins with `c`: the longest run of letters or of
ASCII digits, or one other character. -/
def leadingRun (c : Char) (rest : List Char) : TokenKind × List Char :=
  if isAlphabetic c then
    let letters := c :: rest.takeWhile isAlphabetic
    (wordKind letters, letters)
  else if c.isDigit then
    (.integer, c :: rest.takeWhile Char.isDigit)
  else
    (.punctuation, [c])

theorem leadingRun_ne_nil (c : Char) (rest : List Char) : (leadingRun c rest).2 ≠ [] := by
  unfold leadingRun
  split
  · simp
  · split <;> simp

/-- The number of bytes that characters take in UTF-8. -/
def utf8Length : List Char → Nat
  | [] => 0
  | c :: rest => c.utf8Size + utf8Length rest

/-- The tokens of the characters that begin at byte `offset`. -/
def scanFrom (offset : Nat) : List Char → List Token
  | [] => []
  | c :: rest =>
    if isWhitespace c then scanFrom (offset + c.utf8Size) rest
    else
      let run := leadingRun c rest
      let stop := offset + utf8Length run.2
      .untagged offset stop (String.ofList run.2) run.1 ::
        scanFrom stop ((c :: rest).drop run.2.length)
  termination_by cs => cs.length
  decreasing_by
    · simp
    · have := List.length_pos_iff.2 (leadingRun_ne_nil c rest)
      simp only [List.length_drop, List.length_cons]
      omega

def scan (text : String) : List Token :=
  scanFrom 0 text.toList

end FactGrammar
