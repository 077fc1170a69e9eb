import FactGrammar.Proofs.Matching.Refinement

namespace FactGrammar

namespace Rule

mutual

def substitute (target : String → Rule) : Rule → Rule
  | literal predicate => literal predicate
  | sequence rules => sequence (substituteEach target rules)
  | alternative rules => alternative (substituteEach target rules)
  | negation rule => negation (substitute target rule)
  | optional rule => optional (substitute target rule)
  | repetition rule least most => repetition (substitute target rule) least most
  | reference name => target name
  | interpreted rule binding => interpreted (substitute target rule) binding

def substituteEach (target : String → Rule) : List Rule → List Rule
  | [] => []
  | rule :: rest => substitute target rule :: substituteEach target rest

end

mutual

def references : Rule → List String
  | literal _ => []
  | sequence rules => referencesEach rules
  | alternative rules => referencesEach rules
  | negation rule => references rule
  | optional rule => references rule
  | repetition rule _ _ => references rule
  | reference name => [name]
  | interpreted rule _ => references rule

def referencesEach : List Rule → List String
  | [] => []
  | rule :: rest => references rule ++ referencesEach rest

end

theorem inTurn_substituteEach {rules : List Rule} {follow : String → Recognizer tokens}
    (h : ∀ rule ∈ rules, (rule.substitute target).recognizer follow =
      rule.recognizer fun name => (target name).recognizer follow) :
    inTurn follow (substituteEach target rules) =
      inTurn (fun name => (target name).recognizer follow) rules := by
  induction rules with
  | nil => rfl
  | cons rule rest ih =>
    obtain ⟨hrule, hrest⟩ := List.forall_mem_cons.1 h
    rw [substituteEach, inTurn, inTurn, hrule, ih hrest]

theorem firstOf_substituteEach {rules : List Rule} {follow : String → Recognizer tokens}
    (h : ∀ rule ∈ rules, (rule.substitute target).recognizer follow =
      rule.recognizer fun name => (target name).recognizer follow) :
    firstOf follow (substituteEach target rules) =
      firstOf (fun name => (target name).recognizer follow) rules := by
  induction rules with
  | nil => rfl
  | cons rule rest ih =>
    obtain ⟨hrule, hrest⟩ := List.forall_mem_cons.1 h
    rw [substituteEach, firstOf, firstOf, hrule, ih hrest]

/-- Instead of putting a rule in the place of a reference one can let the reference mean that
rule. -/
theorem recognizer_substitute (follow : String → Recognizer tokens) (target : String → Rule)
    (rule : Rule) :
    (rule.substitute target).recognizer follow =
      rule.recognizer fun name => (target name).recognizer follow := by
  induction rule with
  | literal predicate => rfl
  | sequence rules ih => exact inTurn_substituteEach ih
  | alternative rules ih => exact firstOf_substituteEach ih
  | negation rule ih => rw [substitute, recognizer, recognizer, ih]
  | optional rule ih => rw [substitute, recognizer, recognizer, ih]
  | repetition rule least most ih => rw [substitute, recognizer, recognizer, ih]
  | reference name => rfl
  | interpreted rule binding ih => rw [substitute, recognizer, recognizer, ih]

theorem referencesEach_substituteEach {rules : List Rule}
    (h : ∀ rule ∈ rules, (rule.substitute target).references = []) :
    referencesEach (substituteEach target rules) = [] := by
  induction rules with
  | nil => rfl
  | cons rule rest ih =>
    obtain ⟨hrule, hrest⟩ := List.forall_mem_cons.1 h
    rw [substituteEach, referencesEach, hrule, ih hrest, List.append_nil]

theorem references_substitute (h : ∀ name, (target name).references = []) (rule : Rule) :
    (rule.substitute target).references = [] := by
  induction rule with
  | literal predicate => rfl
  | sequence rules ih | alternative rules ih => exact referencesEach_substituteEach ih
  | negation rule ih | optional rule ih | repetition rule least most ih
  | interpreted rule binding ih => exact ih
  | reference name => exact h name

theorem substituteEach_of_references_nil {rules : List Rule}
    (h : ∀ rule ∈ rules, rule.references = [] → rule.substitute target = rule)
    (hnil : referencesEach rules = []) : substituteEach target rules = rules := by
  induction rules with
  | nil => rfl
  | cons rule rest ih =>
    obtain ⟨hrule, hrest⟩ := List.forall_mem_cons.1 h
    obtain ⟨hnil, hnil'⟩ := List.append_eq_nil_iff.1 hnil
    rw [substituteEach, hrule hnil, ih hrest hnil']

theorem substitute_of_references_nil (target : String → Rule) {rule : Rule}
    (h : rule.references = []) :
    rule.substitute target = rule := by
  induction rule with
  | literal predicate => rfl
  | sequence rules ih | alternative rules ih =>
    rw [substitute, substituteEach_of_references_nil ih h]
  | negation rule ih | optional rule ih | repetition rule least most ih
  | interpreted rule binding ih => rw [substitute, ih h]
  | reference name => cases h

end Rule

namespace Grammar

variable {grammar : Grammar} {tokens : List Token}

/-- The rule under a name with its references written out to a depth. The name itself counts. -/
def unfoldName (grammar : Grammar) : Nat → String → Rule
  | 0, _ => .alternative []
  | budget + 1, name =>
    match grammar.get? name with
    | none => .alternative []
    | some target => target.substitute (grammar.unfoldName budget)

def unfold (grammar : Grammar) (budget : Nat) (rule : Rule) : Rule :=
  rule.substitute (grammar.unfoldName budget)

theorem unfoldName_of_defined (h : grammar.get? name = some target) (budget : Nat) :
    grammar.unfoldName (budget + 1) name = grammar.unfold budget target := by
  rw [unfoldName, h]
  rfl

theorem references_unfoldName (grammar : Grammar) (budget : Nat) (name : String) :
    (grammar.unfoldName budget name).references = [] := by
  induction budget generalizing name with
  | zero => rfl
  | succ budget ih =>
    rw [unfoldName]
    cases grammar.get? name with
    | none => rfl
    | some target => exact Rule.references_substitute ih target

theorem recognizer_unfoldName (follow : String → Recognizer tokens) (budget : Nat)
    (name : String) :
    (grammar.unfoldName budget name).recognizer follow = grammar.follow tokens budget name := by
  induction budget generalizing name with
  | zero => rfl
  | succ budget ih =>
    rw [unfoldName, Grammar.follow]
    cases grammar.get? name with
    | none => rfl
    | some target =>
      dsimp only
      rw [Rule.recognizer_substitute]
      congr 1
      exact funext ih

theorem eval_unfold (grammar other : Grammar) (budget budget' : Nat) (rule : Rule) :
    other.eval tokens budget' (grammar.unfold budget rule) = grammar.eval tokens budget rule := by
  have hfollow : (fun name => (grammar.unfoldName budget name).recognizer
      (other.follow tokens budget')) = grammar.follow tokens budget :=
    funext (recognizer_unfoldName _ budget)
  funext position
  rw [eval, unfold, Rule.recognizer_substitute, hfollow, eval]

/-- In a state inside some references the others are still left to follow. -/
theorem attempt_eq_unfold (grammar : Grammar) (tokens : List Token) (rule : Rule)
    (s : MatchState) :
    (grammar.attempt tokens rule s).val =
      (Grammar.empty.attempt tokens (grammar.unfold (maxDepth - s.depth) rule) s).val := by
  rw [attempt_eq_ofResult, attempt_eq_ofResult, eval_unfold]

theorem matchAt_unfold (grammar : Grammar) (rule : Rule) (tokens : List Token) (start : Nat) :
    Grammar.empty.matchAt (grammar.unfold maxDepth rule) tokens start =
      grammar.matchAt rule tokens start := by
  rw [matchAt_eq_ite, matchAt_eq_ite, eval_unfold]

/-- A name leads to a rule through so many references, each to a name that stands for nothing but
the next one, until the last is the name of the rule. -/
inductive Leads (grammar : Grammar) : Nat → String → Rule → Prop where
  | last : grammar.get? name = some target → Leads grammar 1 name target
  | next : grammar.get? name = some (.reference following) →
      Leads grammar count following target → Leads grammar (count + 1) name target

theorem Leads.unfoldName_add (h : grammar.Leads count name target) (budget : Nat) :
    grammar.unfoldName (budget + count) name = grammar.unfold budget target := by
  induction h with
  | last hname => exact unfoldName_of_defined hname budget
  | next hname _ ih => exact (unfoldName_of_defined hname _).trans ih

theorem Leads.unfoldName_of_lt (h : grammar.Leads count name target) (hlt : budget < count) :
    grammar.unfoldName budget name = .alternative [] := by
  induction h generalizing budget with
  | last hname =>
    obtain rfl := Nat.lt_one_iff.1 hlt
    rfl
  | next hname _ ih =>
    cases budget with
    | zero => rfl
    | succ budget => exact (unfoldName_of_defined hname _).trans (ih (Nat.lt_of_succ_lt_succ hlt))

/-- The name of a link from which so many others lead to the last one. -/
def link (count : Nat) : String :=
  String.ofList (List.replicate count 'x')

theorem link_ne (h : count ≠ count') : link count ≠ link count' := by
  intro heq
  have hlength := congrArg String.length heq
  simp only [link, String.length_ofList, List.length_replicate] at hlength
  exact h hlength

def chain (target : Rule) : Nat → Grammar
  | 0 => Grammar.empty.insertNew (link 0) target
  | count + 1 => (chain target count).insertNew (link (count + 1)) (.reference (link count))

theorem get?_chain (target : Rule) (count length : Nat) :
    (chain target length).get? (link count) =
      if length < count then none
      else if count = 0 then some target else some (.reference (link (count - 1))) := by
  induction length with
  | zero =>
    rw [chain, get?_insertNew]
    by_cases h : count = 0
    · subst h
      rfl
    · rw [if_neg (link_ne h), if_pos (Nat.pos_of_ne_zero h)]
      rfl
  | succ length ih =>
    rw [chain, get?_insertNew]
    by_cases h : count = length + 1
    · subst h
      have hnone : (chain target length).get? (link (length + 1)) = none := by
        rw [ih, if_pos (Nat.lt_succ_self length)]
      rw [if_pos rfl, hnone, if_neg (Nat.lt_irrefl _), if_neg (Nat.succ_ne_zero length)]
      rfl
    · rw [if_neg (link_ne h), ih]
      by_cases hlt : length < count
      · rw [if_pos hlt, if_pos (by omega : length + 1 < count)]
      · rw [if_neg hlt, if_neg (by omega : ¬ length + 1 < count)]

theorem chain_leads (target : Rule) (h : count ≤ length) :
    (chain target length).Leads (count + 1) (link count) target := by
  induction count with
  | zero => exact .last ((get?_chain target 0 length).trans (by simp))
  | succ count ih =>
    refine .next ?_ (ih (Nat.le_of_succ_le h))
    rw [get?_chain, if_neg (Nat.not_lt.2 h), if_neg (Nat.succ_ne_zero count)]
    rfl

theorem matchAt_never (grammar : Grammar) (tokens : List Token) (start : Nat) :
    grammar.matchAt (.alternative []) tokens start = none := by
  rw [matchAt_eq_ite]
  exact ite_self none

theorem Leads.matchAt_of_le (h : grammar.Leads count name target) (hle : count ≤ maxDepth)
    (tokens : List Token) (start : Nat) :
    grammar.matchAt (.reference name) tokens start =
      Grammar.empty.matchAt (grammar.unfold (maxDepth - count) target) tokens start := by
  have hunfold : grammar.unfold maxDepth (.reference name) =
      grammar.unfold (maxDepth - count) target := by
    have := h.unfoldName_add (maxDepth - count)
    rwa [Nat.sub_add_cancel hle] at this
  rw [← matchAt_unfold, hunfold]

theorem Leads.matchAt_of_lt (h : grammar.Leads count name target) (hlt : maxDepth < count)
    (tokens : List Token) (start : Nat) :
    grammar.matchAt (.reference name) tokens start = none := by
  rw [← matchAt_unfold, unfold, Rule.substitute, h.unfoldName_of_lt hlt, matchAt_never]

/-- Matching in a grammar is matching with all references written out to depth 256. Along a chain
of references so many can be open and the next one fails. -/
theorem matchAt_eq_unfold (grammar : Grammar) (rule : Rule) (tokens : List Token) (start : Nat) :
    (grammar.unfold 256 rule).references = [] ∧
      grammar.matchAt rule tokens start =
        Grammar.empty.matchAt (grammar.unfold 256 rule) tokens start ∧
      (∀ s, (grammar.attempt tokens rule s).val =
        (Grammar.empty.attempt tokens (grammar.unfold (256 - s.depth) rule) s).val) ∧
      ∀ count name target, grammar.Leads count name target →
        (count ≤ 256 → grammar.matchAt (.reference name) tokens start =
          Grammar.empty.matchAt (grammar.unfold (256 - count) target) tokens start) ∧
        (count ≤ 256 → target.references = [] →
          grammar.matchAt (.reference name) tokens start =
            grammar.matchAt target tokens start) ∧
        (256 < count → grammar.matchAt (.reference name) tokens start = none) := by
  refine ⟨Rule.references_substitute (references_unfoldName grammar 256) rule,
    (matchAt_unfold grammar rule tokens start).symm, attempt_eq_unfold grammar tokens rule,
    fun count name target h => ⟨fun hle => h.matchAt_of_le hle tokens start,
      fun hle hnil => ?_, fun hlt => h.matchAt_of_lt hlt tokens start⟩⟩
  have hfree (budget : Nat) : grammar.unfold budget target = target :=
    Rule.substitute_of_references_nil _ hnil
  rw [h.matchAt_of_le hle, hfree, ← matchAt_unfold grammar target, hfree]

theorem matchAt_chain_of_integer :
    ((chain (.literal (.kind .integer)) 256).matchAt (.reference (link 255)) parentheses 1 =
        some ⟨parentheses, ⟨1, 2⟩, []⟩) ∧
      (chain (.literal (.kind .integer)) 256).matchAt (.reference (link 256)) parentheses 1 =
        none := by
  obtain ⟨_, _, _, hchain⟩ := matchAt_eq_unfold (chain (.literal (.kind .integer)) 256)
    (.literal (.kind .integer)) parentheses 1
  obtain ⟨_, hinlined, _⟩ := hchain _ _ _ (chain_leads _ (by decide : 255 ≤ 256))
  obtain ⟨_, _, hnever⟩ := hchain _ _ _ (chain_leads _ (Nat.le_refl 256))
  refine ⟨(hinlined (Nat.le_refl 256) rfl).trans ?_, hnever (by decide)⟩
  rw [matchAt_eq_ite, if_neg (by decide)]
  rfl

end Grammar

end FactGrammar
