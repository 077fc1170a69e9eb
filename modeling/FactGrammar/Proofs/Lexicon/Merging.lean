import FactGrammar.Proofs.Lexicon.Lookup

namespace FactGrammar

namespace Lexicon

variable {lexicon other third : Lexicon} {added others thirds : List Entry}

theorem tag_of_known (h : lexicon.lookup token.text = some entry) :
    lexicon.tag token =
      { token with normal := entry.normal, pos := entry.pos, grams := entry.grams } := by
  rw [tag, h]

theorem tag_of_unknown (h : lexicon.lookup token.text = none) : lexicon.tag token = token := by
  rw [tag, h]

theorem tag_tag_of_known (lexicon : Lexicon) (h : other.lookup token.text = some entry) :
    other.tag (lexicon.tag token) =
      { token with normal := entry.normal, pos := entry.pos, grams := entry.grams } := by
  have htext : other.lookup (lexicon.tag token).text = some entry := by
    rw [text_tag]
    exact h
  rw [tag_of_known htext]
  cases hfirst : lexicon.lookup token.text with
  | none => rw [tag_of_unknown hfirst]
  | some first => rw [tag_of_known hfirst]

namespace Records

/-- The last entry with a form is looked for among the entries of the other lexicon first. -/
theorem lookup_merge (h : lexicon.Records added) (hother : other.Records others) (word : String) :
    (lexicon.merge other).lookup word = (other.lookup word).or (lexicon.lookup word) := by
  have hmerged := (h.merge hother).lookup_eq word
  rw [List.findRev?_eq_find?_reverse, List.reverse_append, List.find?_append,
    ← List.findRev?_eq_find?_reverse, ← List.findRev?_eq_find?_reverse] at hmerged
  rw [hmerged, hother.lookup_eq, h.lookup_eq]

theorem size_merge (h : lexicon.Records added) (hother : other.Records others) :
    (lexicon.merge other).size = lexicon.size + other.size := by
  rw [(h.merge hother).size_eq, h.size_eq, hother.size_eq, List.length_append]

theorem lookup_merge_assoc (h : lexicon.Records added) (hother : other.Records others)
    (hthird : third.Records thirds) (word : String) :
    ((lexicon.merge other).merge third).lookup word =
      (lexicon.merge (other.merge third)).lookup word := by
  rw [(h.merge hother).lookup_merge hthird, h.lookup_merge hother,
    h.lookup_merge (hother.merge hthird), hother.lookup_merge hthird, Option.or_assoc]

theorem tag_merge (h : lexicon.Records added) (hother : other.Records others) (token : Token) :
    (lexicon.merge other).tag token = other.tag (lexicon.tag token) := by
  have hlookup := h.lookup_merge hother token.text
  cases hknown : other.lookup token.text with
  | some entry =>
    rw [hknown, Option.some_or] at hlookup
    rw [tag_of_known hlookup, tag_tag_of_known lexicon hknown]
  | none =>
    have htext : other.lookup (lexicon.tag token).text = none := by
      rw [text_tag]
      exact hknown
    rw [hknown, Option.none_or] at hlookup
    rw [tag_of_unknown htext, tag, tag, hlookup]

theorem tokenize_merge (h : lexicon.Records added) (hother : other.Records others)
    (text : String) :
    (lexicon.merge other).tokenize text = (lexicon.tokenize text).map other.tag := by
  rw [tokenize, tokenize, List.map_map]
  apply List.map_congr_left
  intro token _
  exact h.tag_merge hother token

end Records

namespace History

/-- A lexicon that takes in another one finds what the other one finds, and what it found itself
only where the other one knows nothing. It grows by all entries of the other. Tokens are tagged as
if by both, one after the other, and the second pass replaces all that the first one wrote on a
token that it knows. -/
theorem merge_overlays (first second : History) :
    let merged := first.lexicon.merge second.lexicon
    (∀ word, merged.lookup word =
        (second.lexicon.lookup word).or (first.lexicon.lookup word)) ∧
      merged.size = first.lexicon.size + second.lexicon.size ∧
      (∀ (third : History) (word : String), (merged.merge third.lexicon).lookup word =
        (first.lexicon.merge (second.lexicon.merge third.lexicon)).lookup word) ∧
      (∀ text, merged.tokenize text =
        (first.lexicon.tokenize text).map second.lexicon.tag) ∧
      ∀ token entry, second.lexicon.lookup token.text = some entry →
        second.lexicon.tag (first.lexicon.tag token) =
          { token with normal := entry.normal, pos := entry.pos, grams := entry.grams } := by
  intro merged
  have hfirst := first.records
  have hsecond := second.records
  refine ⟨hfirst.lookup_merge hsecond, hfirst.size_merge hsecond, ?_,
    hfirst.tokenize_merge hsecond, ?_⟩
  · intro third word
    exact hfirst.lookup_merge_assoc hsecond third.records word
  · intro token entry hknown
    exact tag_tag_of_known first.lexicon hknown

def surname : History :=
  .insert .new ⟨["шульга", "шульги"], "шульга", some "NOUN", .ofList ["Surn"]⟩

def mention : Token :=
  .untagged 0 12 "Шульги" .russian

theorem merge_overlays_surname :
    surname.lexicon.tag mention =
        { mention with normal := "шульга", pos := some "NOUN", grams := .ofList ["Surn"] } ∧
      overridden.lexicon.lookup mention.text =
        some ⟨["отдел", "шульги"], "шульг", none, .empty⟩ ∧
      overridden.lexicon.tag (surname.lexicon.tag mention) =
        { mention with normal := "шульг", pos := none, grams := .empty } ∧
      (surname.lexicon.merge overridden.lexicon).size = 4 ∧
      (surname.lexicon.merge overridden.lexicon).lookup "Шульга" =
        some ⟨["шульга", "шульги"], "шульга", some "NOUN", .ofList ["Surn"]⟩ := by
  obtain ⟨hlookup, hsize, _, _, htag⟩ := merge_overlays surname overridden
  have hknown : overridden.lexicon.lookup mention.text =
      some ⟨["отдел", "шульги"], "шульг", none, .empty⟩ := by
    decide +kernel
  have htagged := htag mention _ hknown
  rw [hsize, hlookup]
  refine ⟨?_, hknown, htagged, ?_, ?_⟩
  · decide +kernel
  · decide +kernel
  · decide +kernel

end History

end Lexicon

end FactGrammar
