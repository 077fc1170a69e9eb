import FactGrammar.Proofs.Matching.Search
import FactGrammar.Proofs.Matching.Unfolding

namespace FactGrammar

namespace Grammar

/-- The first of some names that is not defined. -/
def undefined? (grammar : Grammar) (names : List String) : Option String :=
  names.find? fun name => (grammar.get? name).isNone

/-- The outcome of a check that found this undefined name, or none. -/
def verdict : Option String → Except GrammarError Unit
  | none => .ok ()
  | some name => .error (.unresolvedReference name)

variable {grammar extended : Grammar} {rule : Rule} {tokens : List Token}

theorem undefined?_append (grammar : Grammar) (names others : List String) :
    grammar.undefined? (names ++ others) =
      (grammar.undefined? names).or (grammar.undefined? others) :=
  List.find?_append

theorem checkEach_eq_verdict {rules : List Rule}
    (ih : ∀ rule ∈ rules, grammar.check rule = verdict (grammar.undefined? rule.references)) :
    grammar.checkEach rules = verdict (grammar.undefined? (Rule.referencesEach rules)) := by
  induction rules with
  | nil => rfl
  | cons rule rest ihRest =>
    obtain ⟨hrule, hrest⟩ := List.forall_mem_cons.1 ih
    rw [checkEach, hrule, ihRest hrest, Rule.referencesEach, undefined?_append]
    cases grammar.undefined? rule.references with
    | none => rfl
    | some name => rfl

/-- A check reports the first reference, as written, to a name that is not defined. -/
theorem check_eq_verdict (grammar : Grammar) (rule : Rule) :
    grammar.check rule = verdict (grammar.undefined? rule.references) := by
  induction rule with
  | literal predicate => rfl
  | sequence rules ih | alternative rules ih => exact checkEach_eq_verdict ih
  | negation rule ih | optional rule ih | repetition rule least most ih
  | interpreted rule binding ih => exact ih
  | reference name =>
    rw [check, Rule.references, undefined?, List.find?_singleton]
    cases grammar.get? name with
    | none => rfl
    | some target => rfl

theorem verdict_eq_ok_iff {found : Option String} : verdict found = .ok () ↔ found = none := by
  cases found with
  | none => exact ⟨fun _ => rfl, fun _ => rfl⟩
  | some name => exact ⟨nofun, nofun⟩

theorem isSome_of_undefined?_eq_none {names : List String} (h : grammar.undefined? names = none)
    (hname : name ∈ names) : (grammar.get? name).isSome = true := by
  have hdefined := List.find?_eq_none.1 h name hname
  rwa [Bool.not_eq_true, Option.isNone_eq_false_iff] at hdefined

/-- In a rule that passes the check every reference leads to a rule. -/
theorem isSome_of_check (h : grammar.check rule = .ok ()) (hname : name ∈ rule.references) :
    (grammar.get? name).isSome = true := by
  rw [check_eq_verdict, verdict_eq_ok_iff] at h
  exact isSome_of_undefined?_eq_none h hname

theorem mem_referencesEach {rules : List Rule} (hrule : rule ∈ rules)
    (hname : name ∈ rule.references) : name ∈ Rule.referencesEach rules := by
  induction rules with
  | nil => cases hrule
  | cons first rest ih =>
    rw [Rule.referencesEach]
    rcases List.mem_cons.1 hrule with rfl | hrest
    · exact List.mem_append_left _ hname
    · exact List.mem_append_right _ (ih hrest)

theorem mem_rules_of_get? (h : grammar.get? name = some target) :
    target ∈ grammar.rules.map (·.2) := by
  obtain ⟨before, behind, hrules, _⟩ := List.lookup_eq_some_iff.1 h
  rw [hrules, List.map_append]
  exact List.mem_append_right _ List.mem_cons_self

/-- In a valid grammar every reference in a rule under a name leads to a rule. -/
theorem isSome_of_validate (hvalid : grammar.validate = .ok ())
    (htarget : grammar.get? name = some target) (hname : other ∈ target.references) :
    (grammar.get? other).isSome = true := by
  have hchecked : grammar.validate = verdict (grammar.undefined? _) :=
    checkEach_eq_verdict fun rule _ => check_eq_verdict grammar rule
  rw [hchecked, verdict_eq_ok_iff] at hvalid
  exact isSome_of_undefined?_eq_none hvalid
    (mem_referencesEach (mem_rules_of_get? htarget) hname)

end Grammar

namespace Rule

variable {tokens : List Token} {follow follow' : String → Recognizer tokens}

theorem inTurn_congr {rules : List Rule}
    (ih : ∀ rule ∈ rules, (∀ name ∈ rule.references, follow name = follow' name) →
      rule.recognizer follow = rule.recognizer follow')
    (h : ∀ name ∈ referencesEach rules, follow name = follow' name) :
    inTurn follow rules = inTurn follow' rules := by
  induction rules with
  | nil => rfl
  | cons rule rest ihRest =>
    obtain ⟨hrule, hrest⟩ := List.forall_mem_append.1 h
    obtain ⟨ihRule, ihEach⟩ := List.forall_mem_cons.1 ih
    rw [inTurn_cons, inTurn_cons, ihRule hrule, ihRest ihEach hrest]

theorem firstOf_congr {rules : List Rule}
    (ih : ∀ rule ∈ rules, (∀ name ∈ rule.references, follow name = follow' name) →
      rule.recognizer follow = rule.recognizer follow')
    (h : ∀ name ∈ referencesEach rules, follow name = follow' name) :
    firstOf follow rules = firstOf follow' rules := by
  induction rules with
  | nil => rfl
  | cons rule rest ihRest =>
    obtain ⟨hrule, hrest⟩ := List.forall_mem_append.1 h
    obtain ⟨ihRule, ihEach⟩ := List.forall_mem_cons.1 ih
    rw [firstOf_cons, firstOf_cons, ihRule hrule, ihRest ihEach hrest]

/-- What a rule means depends on the names that it refers to and on no others. -/
theorem recognizer_congr (rule : Rule)
    (h : ∀ name ∈ rule.references, follow name = follow' name) :
    rule.recognizer follow = rule.recognizer follow' := by
  induction rule with
  | literal predicate => rfl
  | sequence rules ih => exact inTurn_congr ih h
  | alternative rules ih => exact firstOf_congr ih h
  | negation rule ih => rw [recognizer_negation, recognizer_negation, ih h]
  | optional rule ih => rw [recognizer_optional, recognizer_optional, ih h]
  | repetition rule least most ih =>
    rw [recognizer_repetition, recognizer_repetition, ih h]
  | reference name => exact h name List.mem_cons_self
  | interpreted rule binding ih =>
    rw [recognizer_interpreted, recognizer_interpreted, ih h]

end Rule

namespace Grammar

variable {grammar extended : Grammar} {rule : Rule} {tokens : List Token}

/-- Every rule of a grammar stands in the other under the same name. -/
def Extends (extended grammar : Grammar) : Prop :=
  ∀ name target, grammar.get? name = some target → extended.get? name = some target

/-- The names of a valid grammar mean the same in an extension. A reference leads to a rule whose
own references are defined too, so the new names are never asked for, however deep references
nest. -/
theorem Extends.follow_eq (h : Extends extended grammar) (hvalid : grammar.validate = .ok ())
    (budget : Nat) (hname : (grammar.get? name).isSome = true) :
    extended.follow tokens budget name = grammar.follow tokens budget name := by
  induction budget generalizing name with
  | zero => rfl
  | succ budget ih =>
    obtain ⟨target, htarget⟩ := Option.isSome_iff_exists.1 hname
    rw [follow_of_defined htarget, follow_of_defined (h name target htarget)]
    apply Rule.recognizer_congr
    intro other hother
    exact ih (isSome_of_validate hvalid htarget hother)

theorem Extends.matchAt_eq (h : Extends extended grammar) (hvalid : grammar.validate = .ok ())
    (hrule : grammar.check rule = .ok ()) (tokens : List Token) (start : Nat) :
    extended.matchAt rule tokens start = grammar.matchAt rule tokens start := by
  have hmeaning : rule.recognizer (extended.follow tokens maxDepth) =
      rule.recognizer (grammar.follow tokens maxDepth) := by
    apply Rule.recognizer_congr
    intro name hname
    exact h.follow_eq hvalid maxDepth (isSome_of_check hrule hname)
  rw [matchAt_eq_ite, matchAt_eq_ite, eval, eval, hmeaning]

theorem extends_insertNew (grammar : Grammar) (name : String) (rule : Rule) :
    Extends (grammar.insertNew name rule) grammar := by
  intro key target htarget
  rw [get?_insertNew]
  split
  · rename_i heq
    subst heq
    rw [htarget, Option.getD_some]
  · exact htarget

/-- Putting a rule under a name that is taken changes nothing. -/
theorem insertRule_of_defined {rules : List (String × Rule)} (h : rules.Pairwise (·.1 < ·.1))
    (hname : (rules.lookup name).isSome = true) : insertRule name rule rules = rules := by
  induction rules with
  | nil => cases hname
  | cons q rest ih =>
    obtain ⟨n, r⟩ := q
    obtain ⟨hq, hrest⟩ := List.pairwise_cons.1 h
    rw [insertRule]
    split
    · rename_i hlt
      -- All names of the list come after this one, so it cannot be one of them.
      have hbefore : ∀ p ∈ (n, r) :: rest, name < p.1 :=
        List.forall_mem_cons.2 ⟨hlt, fun p hp => String.lt_trans hlt (hq p hp)⟩
      rw [lookup_eq_none_of_lt hbefore] at hname
      cases hname
    · split
      · rfl
      · rename_i hne
        rw [lookup_cons_eq_ite, if_neg hne] at hname
        rw [ih hrest hname]

theorem insertNew_of_defined (hname : (grammar.get? name).isSome = true) (rule : Rule) :
    grammar.insertNew name rule = grammar := by
  cases grammar with
  | mk rules increasing =>
    rw [insertNew]
    congr 1
    exact insertRule_of_defined increasing hname

/-- A new rule under a new name leaves the matches of a valid grammar as they were, whatever the
rule refers to. A rule under a name that is taken is refused and leaves the whole grammar as it
was. Either way `insertNew` is the grammar after the definition. -/
theorem define_stable (grammar : Grammar) (name : String) (added : Rule) :
    (grammar.get? name = none →
      grammar.define name added = .ok (grammar.insertNew name added) ∧
        (grammar.insertNew name added).get? name = some added ∧
        (grammar.validate = .ok () → ∀ rule, grammar.check rule = .ok () → ∀ tokens,
          (∀ start, (grammar.insertNew name added).matchAt rule tokens start =
            grammar.matchAt rule tokens start) ∧
          (grammar.insertNew name added).findAll rule tokens = grammar.findAll rule tokens)) ∧
      ((grammar.get? name).isSome = true →
        grammar.define name added = .error (.duplicateRule name) ∧
          grammar.insertNew name added = grammar) := by
  refine ⟨?_, ?_⟩
  · intro hfree
    refine ⟨?_, ?_, ?_⟩
    · rw [define, hfree]
      rfl
    · rw [get?_insertNew, if_pos rfl, hfree, Option.getD_none]
    · intro hvalid rule hrule tokens
      have hextends := extends_insertNew grammar name added
      have hmatch (start : Nat) := hextends.matchAt_eq hvalid hrule tokens start
      exact ⟨hmatch, findAll_congr hmatch⟩
  · intro htaken
    refine ⟨?_, insertNew_of_defined htaken added⟩
    rw [define, if_pos htaken]

theorem define_stable_parentheses :
    let pair : Rule := .sequence [.reference "pair", .reference "missing"]
    parenthesized.get? "pair" = none ∧ parenthesized.validate = .ok () ∧
      parenthesized.check (.reference "list") = .ok () ∧
      parenthesized.define "pair" pair = .ok (parenthesized.insertNew "pair" pair) ∧
      (parenthesized.insertNew "pair" pair).validate = .error (.unresolvedReference "missing") ∧
      (parenthesized.insertNew "pair" pair).matchAt (.reference "list") parentheses 0 =
        some ⟨parentheses, ⟨0, 5⟩,
          [⟨.fact listSchema, ⟨0, 5⟩, 1⟩, ⟨.fact listSchema, ⟨2, 4⟩, 0⟩]⟩ ∧
      (parenthesized.get? "list").isSome = true ∧
      parenthesized.define "list" pair = .error (.duplicateRule "list") ∧
      parenthesized.insertNew "list" pair = parenthesized := by
  intro pair
  have hfree : parenthesized.get? "pair" = none := rfl
  have hvalid : parenthesized.validate = .ok () := rfl
  have hrule : parenthesized.check (.reference "list") = .ok () := rfl
  have htaken : (parenthesized.get? "list").isSome = true := rfl
  obtain ⟨hnew, _⟩ := define_stable parenthesized "pair" pair
  obtain ⟨hdefined, _, hstable⟩ := hnew hfree
  obtain ⟨hmatch, _⟩ := hstable hvalid (.reference "list") hrule parentheses
  obtain ⟨_, hrefused⟩ := define_stable parenthesized "list" pair
  obtain ⟨herror, hsame⟩ := hrefused htaken
  refine ⟨hfree, hvalid, hrule, hdefined, rfl, (hmatch 0).trans ?_, htaken, herror, hsame⟩
  rw [matchAt_eq_ite, if_neg (by decide), eval_parentheses]
  rfl

end Grammar

end FactGrammar
