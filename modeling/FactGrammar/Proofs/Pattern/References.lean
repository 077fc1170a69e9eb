import FactGrammar.Proofs.Matching.Extension
import FactGrammar.Proofs.Text.ByteOrder
import Mathlib.Data.List.Basic

namespace FactGrammar

namespace Rule

mutual

/-- A rule and all rules inside it, from left to right, each before those inside it. -/
def parts : Rule → List Rule
  | literal predicate => [literal predicate]
  | sequence rules => sequence rules :: partsEach rules
  | alternative rules => alternative rules :: partsEach rules
  | negation rule => negation rule :: parts rule
  | optional rule => optional rule :: parts rule
  | repetition rule least most => repetition rule least most :: parts rule
  | reference name => [reference name]
  | interpreted rule binding => interpreted rule binding :: parts rule

def partsEach : List Rule → List Rule
  | [] => []
  | rule :: rest => parts rule ++ partsEach rest

end

def target? : Rule → Option String
  | reference name => some name
  | _ => none

def Resolved (defined : String → Prop) (rule : Rule) : Prop :=
  ∀ name, reference name ∈ rule.parts → defined name

/-- Of the references in a rule to names that are not defined the first one is to `name`. -/
def FirstUndefined (defined : String → Prop) (rule : Rule) (name : String) : Prop :=
  ∃ before behind, rule.parts = before ++ reference name :: behind ∧ ¬ defined name ∧
    ∀ other, reference other ∈ before → defined other

theorem target?_eq_some_iff {rule : Rule} : rule.target? = some name ↔ rule = reference name := by
  cases rule with
  | reference other =>
    rw [target?, Option.some.injEq, reference.injEq]
  | literal _ | sequence _ | alternative _ | negation _ | optional _ | repetition _ _ _
  | interpreted _ _ => exact ⟨nofun, nofun⟩

theorem referencesEach_eq_filterMap {rules : List Rule}
    (ih : ∀ rule ∈ rules, rule.references = rule.parts.filterMap target?) :
    referencesEach rules = (partsEach rules).filterMap target? := by
  induction rules with
  | nil => rfl
  | cons rule rest ihRest =>
    obtain ⟨hrule, hrest⟩ := List.forall_mem_cons.1 ih
    rw [referencesEach, partsEach, hrule, ihRest hrest, List.filterMap_append]

theorem references_eq_filterMap (rule : Rule) :
    rule.references = rule.parts.filterMap target? := by
  induction rule with
  | literal predicate => rfl
  | sequence rules ih | alternative rules ih => exact referencesEach_eq_filterMap ih
  | negation rule ih | optional rule ih | repetition rule least most ih
  | interpreted rule binding ih => exact ih
  | reference name => rfl

theorem mem_references_iff {rule : Rule} :
    name ∈ rule.references ↔ reference name ∈ rule.parts := by
  rw [references_eq_filterMap, List.mem_filterMap]
  constructor
  · rintro ⟨part, hpart, htarget⟩
    exact target?_eq_some_iff.1 htarget ▸ hpart
  · intro hpart
    exact ⟨_, hpart, rfl⟩

end Rule

namespace Grammar

variable {grammar : Grammar}

def Defines (grammar : Grammar) (name : String) : Prop :=
  ∃ target, grammar.get? name = some target

theorem isNone_get?_iff : (grammar.get? name).isNone = true ↔ ¬ grammar.Defines name := by
  rw [Option.isNone_iff_eq_none, Option.eq_none_iff_forall_ne_some, Defines, not_exists]

theorem undefined?_eq_none_iff {rule : Rule} :
    grammar.undefined? rule.references = none ↔ rule.Resolved grammar.Defines := by
  rw [undefined?, List.find?_eq_none]
  constructor
  · intro h name hname
    have hdefined := h name (Rule.mem_references_iff.2 hname)
    rwa [isNone_get?_iff, not_not] at hdefined
  · intro h name hname
    rw [isNone_get?_iff, not_not]
    exact h name (Rule.mem_references_iff.1 hname)

theorem undefined?_eq_some_iff {rule : Rule} :
    grammar.undefined? rule.references = some name ↔
      rule.FirstUndefined grammar.Defines name := by
  rw [undefined?, Rule.references_eq_filterMap, List.find?_filterMap, Option.bind_eq_some_iff]
  constructor
  · rintro ⟨part, hpart, htarget⟩
    obtain rfl := Rule.target?_eq_some_iff.1 htarget
    obtain ⟨hname, before, behind, hparts, hbefore⟩ := List.find?_eq_some_iff_append.1 hpart
    refine ⟨before, behind, hparts, isNone_get?_iff.1 hname, ?_⟩
    intro other hother
    by_contra hundefined
    have hpassed := hbefore _ hother
    rw [Rule.target?, Option.any_some, isNone_get?_iff.2 hundefined] at hpassed
    cases hpassed
  · rintro ⟨before, behind, hparts, hname, hbefore⟩
    refine ⟨.reference name, List.find?_eq_some_iff_append.2
      ⟨isNone_get?_iff.2 hname, before, behind, hparts, ?_⟩, rfl⟩
    intro part hpart
    cases htarget : part.target? with
    | none => rfl
    | some other =>
      obtain rfl := Rule.target?_eq_some_iff.1 htarget
      obtain ⟨target, hdefined⟩ := hbefore other hpart
      rw [Option.any_some, hdefined]
      rfl

theorem check_eq_ok_iff {rule : Rule} :
    grammar.check rule = .ok () ↔ rule.Resolved grammar.Defines := by
  rw [check_eq_verdict, verdict_eq_ok_iff, undefined?_eq_none_iff]

theorem verdict_eq_error_iff {found : Option String} :
    verdict found = .error e ↔ ∃ name, found = some name ∧ e = .unresolvedReference name := by
  cases found with
  | none => exact ⟨nofun, nofun⟩
  | some name =>
    rw [verdict, Except.error.injEq]
    constructor
    · rintro rfl
      exact ⟨name, rfl, rfl⟩
    · rintro ⟨_, hname, rfl⟩
      cases hname
      rfl

theorem check_eq_error_iff {rule : Rule} :
    grammar.check rule = .error e ↔
      ∃ name, rule.FirstUndefined grammar.Defines name ∧ e = .unresolvedReference name := by
  rw [check_eq_verdict, verdict_eq_error_iff]
  simp only [undefined?_eq_some_iff]

theorem checkEach_eq_ok_iff {rules : List Rule} :
    grammar.checkEach rules = .ok () ↔ ∀ rule ∈ rules, grammar.check rule = .ok () := by
  induction rules with
  | nil => exact ⟨fun _ => List.forall_mem_nil _, fun _ => rfl⟩
  | cons rule rest ih =>
    rw [List.forall_mem_cons, ← ih, checkEach]
    cases grammar.check rule with
    | ok _ => exact (and_iff_right rfl).symm
    | error e =>
      constructor
      · intro h
        cases h
      · rintro ⟨h, _⟩
        cases h

theorem checkEach_eq_error_iff {rules : List Rule} :
    grammar.checkEach rules = .error e ↔ ∃ before rule behind, rules = before ++ rule :: behind ∧
      (∀ earlier ∈ before, grammar.check earlier = .ok ()) ∧ grammar.check rule = .error e := by
  induction rules with
  | nil =>
    refine ⟨nofun, ?_⟩
    rintro ⟨before, rule, behind, hrules, _⟩
    cases before <;> cases hrules
  | cons first rest ih =>
    rw [checkEach]
    cases hfirst : grammar.check first with
    | error e' =>
      constructor
      · intro h
        cases h
        exact ⟨[], first, rest, rfl, List.forall_mem_nil _, hfirst⟩
      · rintro ⟨before, rule, behind, hrules, hbefore, hrule⟩
        cases before with
        | nil =>
          cases hrules
          exact hfirst.symm.trans hrule
        | cons _ _ =>
          cases hrules
          cases hfirst.symm.trans (hbefore _ List.mem_cons_self)
    | ok _ =>
      dsimp only
      rw [ih]
      constructor
      · rintro ⟨before, rule, behind, rfl, hbefore, hrule⟩
        exact ⟨first :: before, rule, behind, rfl, List.forall_mem_cons.2 ⟨hfirst, hbefore⟩, hrule⟩
      · rintro ⟨before, rule, behind, hrules, hbefore, hrule⟩
        cases before with
        | nil =>
          cases hrules
          cases hfirst.symm.trans hrule
        | cons _ before =>
          cases hrules
          exact ⟨before, rule, behind, rfl, (List.forall_mem_cons.1 hbefore).2, hrule⟩

theorem mem_iff_lookup_eq_some {rules : List (String × Rule)} (h : rules.Pairwise (·.1 < ·.1)) :
    (name, rule) ∈ rules ↔ rules.lookup name = some rule := by
  induction rules with
  | nil => exact ⟨nofun, nofun⟩
  | cons q rest ih =>
    obtain ⟨n, r⟩ := q
    obtain ⟨hq, hrest⟩ := List.pairwise_cons.1 h
    rw [List.mem_cons, lookup_cons_eq_ite, ih hrest, Prod.mk.injEq]
    by_cases hname : name = n
    · subst hname
      -- The names behind the first one come after it.
      rw [if_pos rfl, lookup_eq_none_of_lt hq, Option.some.injEq]
      constructor
      · rintro (⟨_, rfl⟩ | hnone)
        · rfl
        · cases hnone
      · rintro rfl
        exact .inl ⟨rfl, rfl⟩
    · rw [if_neg hname]
      exact or_iff_right fun heq => hname heq.1

/-- The rules of a grammar are those that its names lead to. -/
theorem mem_rules_iff : (name, rule) ∈ grammar.rules ↔ grammar.get? name = some rule :=
  mem_iff_lookup_eq_some grammar.increasing

theorem validate_eq_ok_iff :
    grammar.validate = .ok () ↔
      ∀ name rule, grammar.get? name = some rule → grammar.check rule = .ok () := by
  rw [validate, checkEach_eq_ok_iff, List.forall_mem_map, Prod.forall]
  simp only [mem_rules_iff]

/-- The rules stand in the order of their names, so a validation stops at the first name with a rule
that does not pass. -/
theorem validate_eq_error_iff :
    grammar.validate = .error e ↔ ∃ name rule, grammar.get? name = some rule ∧
      grammar.check rule = .error e ∧ ∀ other rule', grammar.get? other = some rule' →
        other < name → grammar.check rule' = .ok () := by
  have hincreasing := grammar.increasing
  rw [validate, checkEach_eq_error_iff]
  constructor
  · rintro ⟨before, rule, behind, hrules, hbefore, hrule⟩
    obtain ⟨earlier, found, hsplit, rfl, hfound⟩ := List.map_eq_append_iff.1 hrules
    obtain ⟨⟨name, _⟩, later, rfl, rfl, _⟩ := List.map_eq_cons_iff.1 hfound
    rw [hsplit, List.pairwise_append, List.pairwise_cons] at hincreasing
    obtain ⟨_, ⟨hlater, _⟩, _⟩ := hincreasing
    refine ⟨name, _, mem_rules_iff.1 (hsplit ▸ List.mem_append_right _ List.mem_cons_self), hrule,
      ?_⟩
    intro other rule' hother hlt
    have hmem := mem_rules_iff.2 hother
    rw [hsplit, List.mem_append, List.mem_cons] at hmem
    rcases hmem with hmem | heq | hmem
    · exact hbefore rule' (List.mem_map_of_mem hmem)
    · cases heq
      exact absurd hlt (String.lt_irrefl _)
    · exact absurd (String.lt_trans hlt (hlater _ hmem)) (String.lt_irrefl _)
  · rintro ⟨name, rule, hname, hrule, hbefore⟩
    obtain ⟨earlier, later, hsplit⟩ := List.append_of_mem (mem_rules_iff.2 hname)
    rw [hsplit, List.pairwise_append] at hincreasing
    obtain ⟨_, _, hacross⟩ := hincreasing
    refine ⟨earlier.map (·.2), rule, later.map (·.2), ?_, ?_, hrule⟩
    · rw [hsplit, List.map_append, List.map_cons]
    · intro rule' hrule'
      obtain ⟨⟨other, _⟩, hmem, rfl⟩ := List.mem_map.1 hrule'
      exact hbefore other _ (mem_rules_iff.1 (hsplit ▸ List.mem_append_left _ hmem))
        (hacross _ hmem _ List.mem_cons_self)

def defineOrKeep (grammar : Grammar) (name : String) (rule : Rule) : Grammar :=
  match grammar.define name rule with
  | .ok extended => extended
  | .error _ => grammar

/-- The grammar after some definitions in turn. -/
def ofDefinitions (definitions : List (String × Rule)) : Grammar :=
  definitions.foldl (fun grammar d => grammar.defineOrKeep d.1 d.2) empty

theorem defineOrKeep_eq_insertNew (grammar : Grammar) (name : String) (rule : Rule) :
    grammar.defineOrKeep name rule = grammar.insertNew name rule := by
  rw [defineOrKeep, define]
  by_cases htaken : (grammar.get? name).isSome = true
  · rw [if_pos htaken, insertNew_of_defined htaken]
  · rw [if_neg htaken]

theorem get?_foldl_defineOrKeep (definitions : List (String × Rule)) (grammar : Grammar)
    (name : String) :
    (definitions.foldl (fun grammar d => grammar.defineOrKeep d.1 d.2) grammar).get? name =
      (grammar.get? name).or (definitions.lookup name) := by
  induction definitions generalizing grammar with
  | nil => exact Option.or_none.symm
  | cons d rest ih =>
    rw [List.foldl_cons, ih, defineOrKeep_eq_insertNew, get?_insertNew, lookup_cons_eq_ite]
    by_cases hname : name = d.1
    · subst hname
      rw [if_pos rfl, if_pos rfl]
      cases grammar.get? d.1 with
      | none => rfl
      | some target => rfl
    · rw [if_neg hname, if_neg hname]

/-- A name leads to the first rule that it was defined with. -/
theorem get?_ofDefinitions (definitions : List (String × Rule)) (name : String) :
    (ofDefinitions definitions).get? name = definitions.lookup name := by
  rw [ofDefinitions, get?_foldl_defineOrKeep]
  rfl

/-- Grammars in which every name leads to the same rule are the same. -/
theorem ext_get? {grammar' : Grammar} (h : ∀ name, grammar.get? name = grammar'.get? name) :
    grammar = grammar' := by
  have hnodup (other : Grammar) : other.rules.Nodup := by
    apply other.increasing.imp
    rintro p q hlt rfl
    exact String.lt_irrefl _ hlt
  have hperm : grammar.rules.Perm grammar'.rules := by
    apply (List.perm_ext_iff_of_nodup (hnodup grammar) (hnodup grammar')).2
    rintro ⟨name, rule⟩
    rw [mem_rules_iff, mem_rules_iff, h]
  have hrules : grammar.rules = grammar'.rules := by
    apply hperm.eq_of_pairwise _ grammar.increasing grammar'.increasing
    intro p q _ _ hlt hgt
    exact absurd (String.lt_trans hlt hgt) (String.lt_irrefl _)
  cases grammar
  cases grammar'
  cases hrules
  rfl

theorem mem_names_iff : name ∈ grammar.names ↔ grammar.Defines name := by
  rw [names, List.mem_map, Defines]
  constructor
  · rintro ⟨⟨_, rule⟩, hmem, rfl⟩
    exact ⟨rule, mem_rules_iff.1 hmem⟩
  · rintro ⟨rule, hname⟩
    exact ⟨(name, rule), mem_rules_iff.2 hname, rfl⟩

/-- A grammar made by definitions in turn knows of each name the first rule that it was defined
with, so it is the same grammar for definitions in another order. A check passes if all references
in a rule lead to a rule, and otherwise reports the first one that does not; a validation does so
for all rules, in the order of the bytes of their names. -/
theorem resolved_ofDefinitions (definitions : List (String × Rule)) :
    let grammar := ofDefinitions definitions
    let defined (name : String) : Prop := ∃ rule, definitions.lookup name = some rule
    (∀ rule, (grammar.check rule = .ok () ↔ rule.Resolved defined) ∧
        ∀ e, grammar.check rule = .error e ↔
          ∃ missing, rule.FirstUndefined defined missing ∧ e = .unresolvedReference missing) ∧
      (grammar.validate = .ok () ↔
        ∀ name rule, definitions.lookup name = some rule → rule.Resolved defined) ∧
      (∀ e, grammar.validate = .error e ↔
        ∃ name rule missing, definitions.lookup name = some rule ∧
          rule.FirstUndefined defined missing ∧ e = .unresolvedReference missing ∧
            ∀ other rule', definitions.lookup other = some rule' →
              Text.bytes other < Text.bytes name → rule'.Resolved defined) ∧
      (∀ name, name ∈ grammar.names ↔ defined name) ∧
      (grammar.names.Pairwise fun name other => Text.bytes name < Text.bytes other) ∧
      ∀ definitions', (∀ name, definitions'.lookup name = definitions.lookup name) →
        ofDefinitions definitions' = grammar := by
  intro grammar defined
  have hget (name : String) : grammar.get? name = definitions.lookup name :=
    get?_ofDefinitions definitions name
  have hdefined : defined = grammar.Defines := by
    funext name
    rw [Defines, hget]
  rw [hdefined]
  simp only [← hget, Text.bytes_lt_iff]
  refine ⟨fun rule => ⟨check_eq_ok_iff, fun e => check_eq_error_iff⟩, ?_, ?_,
    fun name => mem_names_iff, List.pairwise_map.2 grammar.increasing, ?_⟩
  · simp only [validate_eq_ok_iff, check_eq_ok_iff]
  · intro e
    simp only [validate_eq_error_iff, check_eq_ok_iff, check_eq_error_iff]
    constructor
    · rintro ⟨name, rule, hname, ⟨missing, hmissing, he⟩, hbefore⟩
      exact ⟨name, rule, missing, hname, hmissing, he, hbefore⟩
    · rintro ⟨name, rule, missing, hname, hmissing, he, hbefore⟩
      exact ⟨name, rule, hname, ⟨missing, hmissing, he⟩, hbefore⟩
  · intro definitions' hsame
    apply ext_get?
    intro name
    rw [get?_ofDefinitions, hsame, hget]

def pairOrItem : Rule :=
  .alternative [.reference "pair", .reference "item"]

def listings : List (String × Rule) :=
  [("pair", .sequence [.reference "int", .optional (.reference "word")]),
    ("int", .literal (.kind .integer)), ("pair", .reference "int"),
    ("list", .negation pairOrItem)]

def reorderedListings : List (String × Rule) :=
  [("list", .negation pairOrItem), ("int", .literal (.kind .integer)),
    ("pair", .sequence [.reference "int", .optional (.reference "word")])]

theorem resolved_ofDefinitions_listings :
    (ofDefinitions listings).check (.optional (.reference "int")) = .ok () ∧
      (ofDefinitions listings).validate = .error (.unresolvedReference "item") ∧
      (∀ name, reorderedListings.lookup name = listings.lookup name) ∧
      ofDefinitions reorderedListings = ofDefinitions listings := by
  obtain ⟨hcheck, _, hvalidate, _, _, hsame⟩ := resolved_ofDefinitions listings
  have hresolved : (Rule.optional (.reference "int")).Resolved
      fun name => ∃ rule, listings.lookup name = some rule := by
    intro name hname
    obtain rfl : name = "int" := by simpa [Rule.parts] using hname
    exact ⟨_, rfl⟩
  have hfirst : (Rule.negation pairOrItem).FirstUndefined
      (fun name => ∃ rule, listings.lookup name = some rule) "item" := by
    refine ⟨[.negation pairOrItem, pairOrItem, .reference "pair"], [], rfl, ?_, ?_⟩
    · rintro ⟨_, hrule⟩
      cases hrule
    · intro other hother
      obtain rfl : other = "pair" := by simpa [pairOrItem] using hother
      exact ⟨_, rfl⟩
  have hbefore : ∀ other rule, listings.lookup other = some rule →
      Text.bytes other < Text.bytes "list" →
        rule.Resolved fun name => ∃ rule, listings.lookup name = some rule := by
    intro other rule hother hlt
    rw [Text.bytes_lt_iff] at hlt
    simp only [listings, lookup_cons_eq_ite, List.lookup_nil] at hother
    split_ifs at hother with hpair hint hlist
    · exact absurd (hpair ▸ hlt) (by decide)
    · cases hother
      intro name hname
      cases List.mem_singleton.1 hname
    · exact absurd (hlist ▸ hlt) (by decide)
  have hreordered (name : String) : reorderedListings.lookup name = listings.lookup name := by
    simp only [reorderedListings, listings, lookup_cons_eq_ite, List.lookup_nil]
    split_ifs
    all_goals simp_all
  exact ⟨(hcheck _).1.2 hresolved,
    (hvalidate _).2 ⟨"list", _, "item", rfl, hfirst, rfl, hbefore⟩, hreordered,
    hsame _ hreordered⟩

end Grammar

end FactGrammar
