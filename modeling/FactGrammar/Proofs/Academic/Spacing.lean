import FactGrammar.Academic.Extraction
import FactGrammar.Facts.Xml
import FactGrammar.Proofs.Matching.Spacing

namespace FactGrammar.Academic

open Text

theorem grammar_isBuiltIn : ∀ p ∈ grammar.predicates, p.isBuiltIn = true := by
  decide +kernel

theorem department_isBuiltIn : ∀ p ∈ Department.rule.predicates, p.isBuiltIn = true := by
  decide +kernel

theorem thesis_isBuiltIn : ∀ p ∈ Thesis.rule.predicates, p.isBuiltIn = true := by
  decide +kernel

theorem personName_isBuiltIn : ∀ p ∈ PersonName.rule.predicates, p.isBuiltIn = true := by
  decide +kernel

variable {tokens tokens' : List Token}

theorem factsOf_respaced [FactType α] (hrule : ∀ p ∈ rule.predicates, p.isBuiltIn = true)
    (h : Respaced tokens tokens') : factsOf α rule tokens = factsOf α rule tokens' := by
  have hread (tokens : List Token) : factsOf α rule tokens =
      ((grammar.findAll rule tokens).map (·.interpret α)).filterMap Except.toOption := by
    rw [List.filterMap_map]
    rfl
  rw [hread, hread, Grammar.map_interpret_respaced α grammar_isBuiltIn hrule h]

theorem firstPersonName_respaced (h : Respaced tokens tokens') :
    firstPersonName tokens = firstPersonName tokens' := by
  have hread (tokens : List Token) : firstPersonName tokens =
      ((Grammar.empty.findAll PersonName.rule tokens).map
        (·.interpret PersonName)).head?.bind Except.toOption := by
    rw [firstPersonName]
    cases Grammar.empty.findAll PersonName.rule tokens with
    | nil => rfl
    | cons m rest => rfl
  have hempty : ∀ p ∈ Grammar.empty.predicates, p.isBuiltIn = true :=
    fun _ hp => absurd hp List.not_mem_nil
  rw [hread, hread, Grammar.map_interpret_respaced PersonName hempty personName_isBuiltIn h]

theorem extract_of_respaced {lexicon : Lexicon}
    (h : Respaced (lexicon.tokenize a) (lexicon.tokenize b)) :
    extract (.ofLexicon lexicon) a = extract (.ofLexicon lexicon) b := by
  have hgroups : attributeGroups (firstPersonName (lexicon.tokenize a)) (lexicon.tokenize a) =
      attributeGroups (firstPersonName (lexicon.tokenize b)) (lexicon.tokenize b) := by
    rw [attributeGroups, firstPersonName_respaced h, factsOf_respaced department_isBuiltIn h,
      factsOf_respaced thesis_isBuiltIn h]
    rfl
  exact congrArg (List.foldl _ FactCollection.empty) hgroups

/-- Texts with the same words have the same facts and the same document. -/
theorem extract_of_words_eq (lexicon : Lexicon) (h : words a = words b) :
    extract (.ofLexicon lexicon) a = extract (.ofLexicon lexicon) b ∧
      ∀ url, (extract (.ofLexicon lexicon) a).toXml url =
        (extract (.ofLexicon lexicon) b).toXml url := by
  have hextract := extract_of_respaced (lexicon.respaced_tokenize h)
  exact ⟨hextract, fun url => congrArg (·.toXml url) hextract⟩

theorem extract_of_words_eq_department :
    words "кафедра  «Алгебра и\u00a0логика»\n" = words "\tкафедра «Алгебра и логика»" ∧
      extract (.ofLexicon .builtin) "кафедра  «Алгебра и\u00a0логика»\n" =
        extract (.ofLexicon .builtin) "\tкафедра «Алгебра и логика»" := by
  have hwords : words "кафедра  «Алгебра и\u00a0логика»\n" =
      words "\tкафедра «Алгебра и логика»" := by
    decide +kernel
  exact ⟨hwords, (extract_of_words_eq .builtin hwords).1⟩

end FactGrammar.Academic
