import FactGrammar.Pattern.Rule

namespace FactGrammar

/-- Puts a rule into its place in a list sorted by name, unless the name is taken. -/
def insertRule (name : String) (rule : Rule) : List (String × Rule) → List (String × Rule)
  | [] => [(name, rule)]
  | (n, r) :: rest =>
    if name < n then (name, rule) :: (n, r) :: rest
    else if name = n then (n, r) :: rest
    else (n, r) :: insertRule name rule rest

theorem mem_insertRule {name : String} {rule : Rule} {rules : List (String × Rule)}
    {p : String × Rule} (h : p ∈ insertRule name rule rules) : p = (name, rule) ∨ p ∈ rules := by
  induction rules with
  | nil => simpa [insertRule] using h
  | cons q rest ih => grind [insertRule]

theorem pairwise_insertRule {name : String} {rule : Rule} {rules : List (String × Rule)}
    (h : rules.Pairwise (·.1 < ·.1)) : (insertRule name rule rules).Pairwise (·.1 < ·.1) := by
  induction rules with
  | nil => simp [insertRule]
  | cons q rest ih =>
    obtain ⟨hq, hrest⟩ := List.pairwise_cons.1 h
    rw [insertRule]
    split
    · rename_i hlt
      refine List.pairwise_cons.2 ⟨fun p hp => ?_, h⟩
      rcases List.mem_cons.1 hp with rfl | hp
      · exact hlt
      · exact String.lt_trans hlt (hq p hp)
    · rename_i hlt
      split
      · exact h
      · rename_i hne
        have hgt : q.1 < name := Std.lt_of_le_of_ne (String.not_lt.1 hlt) (Ne.symm hne)
        refine List.pairwise_cons.2 ⟨fun p hp => ?_, ih hrest⟩
        rcases mem_insertRule hp with rfl | hp
        · exact hgt
        · exact hq p hp

theorem lookup_cons_eq_ite (key name : String) (rule : Rule) (rest : List (String × Rule)) :
    ((name, rule) :: rest).lookup key = if key = name then some rule else rest.lookup key := by
  rw [List.lookup_cons]
  by_cases h : key = name
  · rw [if_pos h, beq_iff_eq.2 h]
  · rw [if_neg h, beq_eq_false_iff_ne.2 h]

theorem lookup_eq_none_of_lt {rules : List (String × Rule)} (h : ∀ p ∈ rules, name < p.1) :
    rules.lookup name = none := by
  refine List.lookup_eq_none_iff.2 fun p hp => bne_iff_ne.2 fun heq => ?_
  have hlt := h p hp
  rw [← heq] at hlt
  exact String.lt_irrefl name hlt

theorem lookup_insertRule {name : String} {rule : Rule} {rules : List (String × Rule)}
    (h : rules.Pairwise (·.1 < ·.1)) (key : String) :
    (insertRule name rule rules).lookup key =
      if key = name then some ((rules.lookup name).getD rule) else rules.lookup key := by
  induction rules with
  | nil => exact lookup_cons_eq_ite ..
  | cons q rest ih =>
    obtain ⟨n, r⟩ := q
    obtain ⟨hq, hrest⟩ := List.pairwise_cons.1 h
    rw [insertRule]
    split
    · rename_i hlt
      have hbefore : ∀ p ∈ (n, r) :: rest, name < p.1 :=
        List.forall_mem_cons.2 ⟨hlt, fun p hp => String.lt_trans hlt (hq p hp)⟩
      rw [lookup_cons_eq_ite, lookup_eq_none_of_lt hbefore, Option.getD_none]
    · split
      · rename_i heq
        subst heq
        simp only [lookup_cons_eq_ite, if_true, Option.getD_some]
        split <;> rfl
      · rename_i hne
        simp only [lookup_cons_eq_ite, ih hrest, if_neg hne]
        by_cases hkey : key = name
        · rw [if_pos hkey, if_pos hkey, if_neg (hkey ▸ hne)]
        · rw [if_neg hkey, if_neg hkey]

/-- Rules under names, in increasing order of the names. -/
structure Grammar where
  rules : List (String × Rule)
  increasing : rules.Pairwise (·.1 < ·.1)

namespace Grammar

def empty : Grammar := ⟨[], .nil⟩

instance : Inhabited Grammar := ⟨empty⟩

def get? (grammar : Grammar) (name : String) : Option Rule :=
  grammar.rules.lookup name

/-- The defined names in increasing order. -/
def names (grammar : Grammar) : List String :=
  grammar.rules.map (·.1)

/-- Defines a name, or keeps the definition that it already has. -/
def insertNew (grammar : Grammar) (name : String) (rule : Rule) : Grammar :=
  ⟨insertRule name rule grammar.rules, pairwise_insertRule grammar.increasing⟩

theorem get?_insertNew (grammar : Grammar) (name : String) (rule : Rule) (key : String) :
    (grammar.insertNew name rule).get? key =
      if key = name then some ((grammar.get? name).getD rule) else grammar.get? key :=
  lookup_insertRule grammar.increasing key

def define (grammar : Grammar) (name : String) (rule : Rule) : Except GrammarError Grammar :=
  if (grammar.get? name).isSome then .error (.duplicateRule name)
  else .ok (grammar.insertNew name rule)

/-- The grammar of some rules; of several under one name the first counts. -/
def ofList (rules : List (String × Rule)) : Grammar :=
  rules.foldl (fun grammar r => grammar.insertNew r.1 r.2) empty

mutual

/-- Refuses the first reference in a rule that names nothing. -/
def check (grammar : Grammar) : Rule → Except GrammarError Unit
  | .literal _ => .ok ()
  | .sequence rules => checkEach grammar rules
  | .alternative rules => checkEach grammar rules
  | .negation rule => check grammar rule
  | .optional rule => check grammar rule
  | .repetition rule _ _ => check grammar rule
  | .reference name =>
    if (grammar.get? name).isSome then .ok () else .error (.unresolvedReference name)
  | .interpreted rule _ => check grammar rule

def checkEach (grammar : Grammar) : List Rule → Except GrammarError Unit
  | [] => .ok ()
  | rule :: rest =>
    match check grammar rule with
    | .ok () => checkEach grammar rest
    | .error e => .error e

end

/-- Refuses the first reference in the defined rules, taken by name, that names nothing. -/
def validate (grammar : Grammar) : Except GrammarError Unit :=
  checkEach grammar (grammar.rules.map (·.2))

end Grammar

end FactGrammar
