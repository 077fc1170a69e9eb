import FactGrammar.Proofs.Matching.Translation
import FactGrammar.Proofs.Token.Spacing

namespace FactGrammar

namespace Predicate

mutual

/-- Whether no part of a test is given as a function. -/
def isBuiltIn : Predicate → Bool
  | all ps => areBuiltIn ps
  | any ps => areBuiltIn ps
  | not p => isBuiltIn p
  | custom _ => false
  | _ => true

def areBuiltIn : List Predicate → Bool
  | [] => true
  | p :: rest => isBuiltIn p && areBuiltIn rest

end

mutual

theorem test_unplaced (token : Token) (p : Predicate) (h : p.isBuiltIn = true) :
    p.test token.unplaced = p.test token := by
  cases p with
  | all ps => exact testAll_unplaced token ps h
  | any ps => exact testAny_unplaced token ps h
  | not p => exact congrArg (!·) (test_unplaced token p h)
  | custom accepts => cases h
  | _ => rfl

theorem testAll_unplaced (token : Token) (ps : List Predicate) (h : areBuiltIn ps = true) :
    testAll token.unplaced ps = testAll token ps := by
  cases ps with
  | nil => rfl
  | cons p rest =>
    obtain ⟨hp, hrest⟩ := Bool.and_eq_true_iff.1 h
    rw [testAll, testAll, test_unplaced token p hp, testAll_unplaced token rest hrest]

theorem testAny_unplaced (token : Token) (ps : List Predicate) (h : areBuiltIn ps = true) :
    testAny token.unplaced ps = testAny token ps := by
  cases ps with
  | nil => rfl
  | cons p rest =>
    obtain ⟨hp, hrest⟩ := Bool.and_eq_true_iff.1 h
    rw [testAny, testAny, test_unplaced token p hp, testAny_unplaced token rest hrest]

end

end Predicate

namespace Respaced

variable {tokens tokens' : List Token}

theorem agrees (h : Respaced tokens tokens') {predicate : Predicate}
    (hbuiltIn : predicate.isBuiltIn = true) : predicate.Agrees 0 tokens tokens' := by
  intro p
  have htest (o : Option Token) :
      o.any (predicate.test ·) = (o.map Token.unplaced).any (predicate.test ·) := by
    cases o with
    | none => rfl
    | some token => exact (Predicate.test_unplaced token predicate hbuiltIn).symm
  rw [Nat.zero_add, htest tokens[p]?, htest tokens'[p]?, ← List.getElem?_map, h.forms,
    List.getElem?_map]

theorem sameValues (h : Respaced tokens tokens') : Match.SameValues 0 tokens tokens' := by
  intro span mode
  have htext : Token.join Token.text (span.slice tokens) =
      Token.join Token.text (span.slice tokens') :=
    (h.slice span).join_eq fun _ => rfl
  have hnormal : Token.join Token.normal (span.slice tokens) =
      Token.join Token.normal (span.slice tokens') :=
    (h.slice span).join_eq fun _ => rfl
  simp only [Span.shift_zero, Match.plainValue, htext, hnormal]

end Respaced

namespace Grammar

variable {grammar : Grammar} {rule : Rule} {tokens tokens' : List Token}

theorem findAll_respaced (hgrammar : ∀ p ∈ grammar.predicates, p.isBuiltIn = true)
    (hrule : ∀ p ∈ rule.predicates, p.isBuiltIn = true) (h : Respaced tokens tokens') :
    grammar.findAll rule tokens = (grammar.findAll rule tokens').map (.moveTo tokens 0) := by
  have hlength : tokens.length = 0 + tokens'.length := h.length_eq.trans (Nat.zero_add _).symm
  have hmatch := matchAt_shift hlength (fun p hp => h.agrees (hgrammar p hp))
    fun p hp => h.agrees (hrule p hp)
  exact findFrom_shift hlength (fun _ => rfl) hmatch 0

/-- The facts of the matches do not depend on the amount of blank between the tokens. -/
theorem map_interpret_respaced (α : Type) [FactType α]
    (hgrammar : ∀ p ∈ grammar.predicates, p.isBuiltIn = true)
    (hrule : ∀ p ∈ rule.predicates, p.isBuiltIn = true) (h : Respaced tokens tokens') :
    (grammar.findAll rule tokens).map (·.interpret α) =
      (grammar.findAll rule tokens').map (·.interpret α) := by
  rw [findAll_respaced hgrammar hrule h, List.map_map]
  apply List.map_congr_left
  intro m hm
  have hsome := (findFrom_leftmost grammar rule tokens' 0).isMatch m hm
  have hfact := Match.fact_moveTo h.sameValues hsome
  rw [Function.comp_apply, Match.interpret, hfact, Match.interpret]

end Grammar

end FactGrammar
