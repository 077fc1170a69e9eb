import FactGrammar.Proofs.Pattern.References

namespace FactGrammar

namespace Recognizer

variable {tokens : List Token} {r r' s s' : Recognizer tokens}

theorem empty_andThen (r : Recognizer tokens) : empty.andThen r = r := by
  refine ext fun p => ?_
  rw [run_andThen, run_empty, Option.bind_some]
  cases r.run p with
  | none => rfl
  | some o => rfl

theorem andThen_assoc (r r' r'' : Recognizer tokens) :
    (r.andThen r').andThen r'' = r.andThen (r'.andThen r'') := by
  refine ext fun p => ?_
  simp only [run_andThen]
  cases r.run p with
  | none => rfl
  | some o =>
    rw [Option.bind_some, Option.bind_some]
    cases r'.run o.1 with
    | none => rfl
    | some o' =>
      rw [Option.map_some, Option.bind_some, Option.bind_some, Option.map_map]
      congr 1
      funext o''
      exact congrArg (Prod.mk o''.1) (CaptureForest.append_assoc o.2 o'.2 o''.2)

theorem orElse_assoc (r r' r'' : Recognizer tokens) :
    (r.orElse r').orElse r'' = r.orElse (r'.orElse r'') :=
  ext fun _ => Option.or_assoc

theorem never_orElse (r : Recognizer tokens) : never.orElse r = r :=
  ext fun _ => Option.none_or

theorem optional_eq_repetition (r : Recognizer tokens) : r.optional = r.repetition 0 (some 1) := by
  refine ext fun p => ?_
  have hlimit : some 1 ≠ some 0 := by decide
  rw [run_optional, run_repetition]
  cases h : r.run p with
  | none => rw [iterate_of_none hlimit h]; rfl
  | some o =>
    obtain ⟨q, f⟩ := o
    by_cases hq : q = p
    · subst hq
      rw [iterate_of_inPlace hlimit h]
      rfl
    · rw [iterate_of_further hlimit h hq, Option.map_some, iterate_of_limit, Iteration.next,
        CaptureForest.append_nil]
      rfl

theorem iterate_of_count_eq_zero (h : (r.iterate limit p).count = 0) :
    r.iterate limit p = ⟨0, p, .nil⟩ := by
  fun_induction iterate r limit p with
  | case1 => rfl
  | case2 => rfl
  | case3 => cases h
  | case4 => cases h

/-- Where a repetition has to match and does not, nothing is all that it could have been. -/
theorem optional_oneOrMore (r : Recognizer tokens) :
    (r.repetition 1 none).optional = r.repetition 0 none := by
  refine ext fun p => ?_
  rw [run_optional, run_repetition, run_repetition, Iteration.atLeast, Iteration.atLeast,
    if_neg (Nat.not_lt_zero _)]
  by_cases hcount : (r.iterate none p).count = 0
  · rw [iterate_of_count_eq_zero hcount]
    rfl
  · rw [if_neg (by omega), Option.getD_some]

/-- Matches alike at every place inside the tokens and at their end. -/
def Agrees (r r' : Recognizer tokens) : Prop :=
  ∀ p ≤ tokens.length, r.run p = r'.run p

namespace Agrees

theorem refl (r : Recognizer tokens) : r.Agrees r := by
  intro p _
  rfl

theorem trans {r'' : Recognizer tokens} (h : r.Agrees r') (h' : r'.Agrees r'') : r.Agrees r'' := by
  intro p hp
  rw [h p hp, h' p hp]

theorem andThen (hr : r.Agrees r') (hs : s.Agrees s') : (r.andThen s).Agrees (r'.andThen s') := by
  intro p hp
  rw [run_andThen, run_andThen, hr p hp]
  cases h : r'.run p with
  | none => rfl
  | some o =>
    rw [Option.bind_some, Option.bind_some, hs o.1 (r'.stop_le_length hp h)]

theorem orElse (hr : r.Agrees r') (hs : s.Agrees s') : (r.orElse s).Agrees (r'.orElse s') := by
  intro p hp
  rw [run_orElse, run_orElse, hr p hp, hs p hp]

theorem negation (hr : r.Agrees r') : r.negation.Agrees r'.negation := by
  intro p hp
  rw [run_negation, run_negation, hr p hp]

theorem optional (hr : r.Agrees r') : r.optional.Agrees r'.optional :=
  hr.orElse (refl empty)

theorem iterate (hr : r.Agrees r') (limit : Option Nat) (hp : p ≤ tokens.length) :
    r.iterate limit p = r'.iterate limit p := by
  fun_induction Recognizer.iterate r' limit p with
  | case1 p => exact iterate_of_limit r p
  | case2 limit p hlimit h => exact iterate_of_none hlimit ((hr p hp).trans h)
  | case3 limit hlimit p f h => exact iterate_of_inPlace hlimit ((hr p hp).trans h)
  | case4 limit p hlimit q f h hq ih =>
    rw [iterate_of_further hlimit ((hr p hp).trans h) hq, ih (r'.stop_le_length hp h)]

theorem repetition (hr : r.Agrees r') (least : Nat) (most : Option Nat) :
    (r.repetition least most).Agrees (r'.repetition least most) := by
  intro p hp
  rw [run_repetition, run_repetition, hr.iterate most hp]

theorem interpreted (hr : r.Agrees r') (binding : Binding) :
    (r.interpreted binding).Agrees (r'.interpreted binding) := by
  intro p hp
  rw [run_interpreted, run_interpreted, hr p hp]

end Agrees

end Recognizer

namespace Rule

variable {tokens : List Token} {follow follow' : String → Recognizer tokens} {rule rule' : Rule}

theorem inTurn_append (rules rules' : List Rule) :
    inTurn follow (rules ++ rules') = (inTurn follow rules).andThen (inTurn follow rules') := by
  induction rules with
  | nil => exact (Recognizer.empty_andThen _).symm
  | cons rule rest ih =>
    rw [List.cons_append, inTurn_cons, inTurn_cons, ih, Recognizer.andThen_assoc]

theorem firstOf_append (rules rules' : List Rule) :
    firstOf follow (rules ++ rules') = (firstOf follow rules).orElse (firstOf follow rules') := by
  induction rules with
  | nil => exact (Recognizer.never_orElse _).symm
  | cons rule rest ih =>
    rw [List.cons_append, firstOf_cons, firstOf_cons, ih, Recognizer.orElse_assoc]

theorem inTurn_agrees {rules : List Rule}
    (ih : ∀ rule ∈ rules, (rule.recognizer follow).Agrees (rule.recognizer follow')) :
    (inTurn follow rules).Agrees (inTurn follow' rules) := by
  induction rules with
  | nil => exact .refl _
  | cons rule rest ihRest =>
    obtain ⟨hrule, hrest⟩ := List.forall_mem_cons.1 ih
    exact hrule.andThen (ihRest hrest)

theorem firstOf_agrees {rules : List Rule}
    (ih : ∀ rule ∈ rules, (rule.recognizer follow).Agrees (rule.recognizer follow')) :
    (firstOf follow rules).Agrees (firstOf follow' rules) := by
  induction rules with
  | nil => exact .refl _
  | cons rule rest ihRest =>
    obtain ⟨hrule, hrest⟩ := List.forall_mem_cons.1 ih
    exact hrule.orElse (ihRest hrest)

theorem recognizer_agrees (h : ∀ name, (follow name).Agrees (follow' name)) (rule : Rule) :
    (rule.recognizer follow).Agrees (rule.recognizer follow') := by
  induction rule with
  | literal predicate => exact .refl _
  | sequence rules ih => exact inTurn_agrees ih
  | alternative rules ih => exact firstOf_agrees ih
  | negation rule ih => exact ih.negation
  | optional rule ih => exact ih.optional
  | repetition rule least most ih => exact ih.repetition least most
  | reference name => exact h name
  | interpreted rule binding ih => exact ih.interpreted binding

end Rule

/-- Two rules match alike: in every grammar, among all tokens, from every place up to the same place
and with the same captures, or neither does. -/
def Rule.Equivalent (rule rule' : Rule) : Prop :=
  ∀ (grammar : Grammar) (tokens : List Token) (start : Nat),
    grammar.matchAt rule tokens start = grammar.matchAt rule' tokens start

/-- A rule in which a place is left open. -/
inductive RuleContext where
  | hole
  | sequence (before : List Rule) (context : RuleContext) (behind : List Rule)
  | alternative (before : List Rule) (context : RuleContext) (behind : List Rule)
  | negation (context : RuleContext)
  | optional (context : RuleContext)
  | repetition (context : RuleContext) (min : Nat) (max : Option Nat)
  | interpreted (context : RuleContext) (binding : Binding)

def RuleContext.fill (rule : Rule) : RuleContext → Rule
  | hole => rule
  | sequence before context behind => .sequence (before ++ context.fill rule :: behind)
  | alternative before context behind => .alternative (before ++ context.fill rule :: behind)
  | negation context => .negation (context.fill rule)
  | optional context => .optional (context.fill rule)
  | repetition context least most => .repetition (context.fill rule) least most
  | interpreted context binding => .interpreted (context.fill rule) binding

namespace Grammar

variable {grammar grammar' : Grammar} {rule rule' : Rule} {tokens : List Token}

/-- A grammar in which some names stand for their rules in another grammar, written out to a
depth. -/
def writtenOut (grammar : Grammar) (budget : Nat) (names : List String) : Grammar :=
  ofDefinitions (names.map fun name => (name, grammar.unfoldName budget name))

/-- From the outside a written out name means what it does inside so many references. -/
theorem follow_writtenOut (grammar : Grammar) (budget depth : Nat) {names : List String}
    (h : name ∈ names) :
    (grammar.writtenOut budget names).follow tokens (depth + 1) name =
      grammar.follow tokens budget name := by
  have hname : (grammar.writtenOut budget names).get? name =
      some (grammar.unfoldName budget name) := by
    rw [writtenOut, get?_ofDefinitions]
    exact List.lookup_graph _ h
  rw [follow_of_defined hname, recognizer_unfoldName]

theorem eval_eq_of_matchAt_eq (hstart : start ≤ tokens.length)
    (h : grammar.matchAt rule tokens start = grammar.matchAt rule' tokens start) :
    grammar.eval tokens maxDepth rule start = grammar.eval tokens maxDepth rule' start := by
  rw [matchAt_eq_ite, matchAt_eq_ite, if_neg (Nat.not_lt.2 hstart),
    if_neg (Nat.not_lt.2 hstart)] at h
  refine Option.map_injective ?_ h
  rintro ⟨stop, forest⟩ ⟨stop', forest'⟩ heq
  obtain ⟨_, hspan, hcaptures⟩ := Match.mk.inj heq
  obtain ⟨_, hstop⟩ := Span.mk.inj hspan
  exact Prod.ext hstop (CaptureForest.flatten_inj hcaptures)

theorem matchAt_eq_of_agrees
    (h : (rule.recognizer (grammar.follow tokens maxDepth)).Agrees
      (rule'.recognizer (grammar'.follow tokens maxDepth))) (start : Nat) :
    grammar.matchAt rule tokens start = grammar'.matchAt rule' tokens start := by
  rw [matchAt_eq_ite, matchAt_eq_ite]
  by_cases hstart : tokens.length < start
  · rw [if_pos hstart, if_pos hstart]
  · rw [if_neg hstart, if_neg hstart, eval, eval, h start (Nat.le_of_not_lt hstart)]

end Grammar

namespace Rule.Equivalent

variable {rule rule' : Rule}

theorem of_recognizer_eq (h : ∀ (tokens : List Token) (follow : String → Recognizer tokens),
    rule.recognizer follow = rule'.recognizer follow) : rule.Equivalent rule' := by
  intro grammar tokens start
  apply Grammar.matchAt_eq_of_agrees
  rw [h]
  exact .refl _

/-- Rules that match alike from outside of all references do so inside of some, too: in a grammar
where their references are written out they match from the outside as they do there. -/
theorem agrees (h : rule.Equivalent rule') (grammar : Grammar) (tokens : List Token)
    (budget : Nat) :
    (rule.recognizer (grammar.follow tokens budget)).Agrees
      (rule'.recognizer (grammar.follow tokens budget)) := by
  intro p hp
  let names := rule.references ++ rule'.references
  have hmeaning : rule.recognizer ((grammar.writtenOut budget names).follow tokens maxDepth) =
      rule.recognizer (grammar.follow tokens budget) := by
    apply recognizer_congr
    intro name hname
    exact grammar.follow_writtenOut budget 255 (List.mem_append_left _ hname)
  have hmeaning' : rule'.recognizer ((grammar.writtenOut budget names).follow tokens maxDepth) =
      rule'.recognizer (grammar.follow tokens budget) := by
    apply recognizer_congr
    intro name hname
    exact grammar.follow_writtenOut budget 255 (List.mem_append_right _ hname)
  have heval := Grammar.eval_eq_of_matchAt_eq hp (h (grammar.writtenOut budget names) tokens p)
  rwa [Grammar.eval, Grammar.eval, hmeaning, hmeaning'] at heval

end Rule.Equivalent

theorem RuleContext.fill_agrees {tokens : List Token} {follow : String → Recognizer tokens}
    {rule rule' : Rule} (h : (rule.recognizer follow).Agrees (rule'.recognizer follow))
    (context : RuleContext) :
    ((context.fill rule).recognizer follow).Agrees ((context.fill rule').recognizer follow) := by
  induction context with
  | hole => exact h
  | sequence before context behind ih =>
    rw [fill, fill, Rule.recognizer_sequence, Rule.recognizer_sequence, Rule.inTurn_append,
      Rule.inTurn_append, Rule.inTurn_cons, Rule.inTurn_cons]
    exact (Recognizer.Agrees.refl _).andThen (ih.andThen (.refl _))
  | alternative before context behind ih =>
    rw [fill, fill, Rule.recognizer_alternative, Rule.recognizer_alternative, Rule.firstOf_append,
      Rule.firstOf_append, Rule.firstOf_cons, Rule.firstOf_cons]
    exact (Recognizer.Agrees.refl _).orElse (ih.orElse (.refl _))
  | negation context ih => exact ih.negation
  | optional context ih => exact ih.optional
  | repetition context least most ih => exact ih.repetition least most
  | interpreted context binding ih => exact ih.interpreted binding

/-- Rules that match alike do so inside every larger rule. -/
theorem Rule.Equivalent.fill {rule rule' : Rule} (h : rule.Equivalent rule')
    (context : RuleContext) : (context.fill rule).Equivalent (context.fill rule') := by
  intro grammar tokens start
  exact Grammar.matchAt_eq_of_agrees (context.fill_agrees (h.agrees grammar tokens maxDepth)) start

namespace Grammar

variable {grammar grammar' : Grammar} {tokens : List Token}

/-- Two grammars define the same names, and each by rules that match alike. -/
def Equivalent (grammar grammar' : Grammar) : Prop :=
  ∀ name, Option.Rel Rule.Equivalent (grammar.get? name) (grammar'.get? name)

theorem Equivalent.follow_agrees (h : grammar.Equivalent grammar') (budget : Nat)
    (name : String) :
    (grammar.follow tokens budget name).Agrees (grammar'.follow tokens budget name) := by
  induction budget generalizing name with
  | zero => exact .refl _
  | succ budget ih =>
    have hname := h name
    rw [follow, follow]
    generalize grammar.get? name = target at hname
    generalize grammar'.get? name = target' at hname
    cases hname with
    | none => exact .refl _
    | @some rule rule' htarget =>
      -- First the rule under the name is replaced, then what its references mean.
      exact (htarget.agrees grammar tokens budget).trans (Rule.recognizer_agrees ih rule')

theorem Equivalent.matchAt_eq (h : grammar.Equivalent grammar') {rule rule' : Rule}
    (hrule : rule.Equivalent rule') (start : Nat) :
    grammar.matchAt rule tokens start = grammar'.matchAt rule' tokens start :=
  (hrule grammar tokens start).trans
    (matchAt_eq_of_agrees (Rule.recognizer_agrees (h.follow_agrees maxDepth) rule') start)

end Grammar

namespace Rule

theorem sequence_flatten_equivalent (before inner behind : List Rule) :
    (sequence (before ++ sequence inner :: behind)).Equivalent
      (sequence (before ++ (inner ++ behind))) := by
  apply Equivalent.of_recognizer_eq
  intro tokens follow
  rw [recognizer_sequence, recognizer_sequence, inTurn_append, inTurn_append, inTurn_append,
    inTurn_cons, recognizer_sequence]

theorem alternative_flatten_equivalent (before inner behind : List Rule) :
    (alternative (before ++ alternative inner :: behind)).Equivalent
      (alternative (before ++ (inner ++ behind))) := by
  apply Equivalent.of_recognizer_eq
  intro tokens follow
  rw [recognizer_alternative, recognizer_alternative, firstOf_append, firstOf_append,
    firstOf_append, firstOf_cons, recognizer_alternative]

theorem optional_equivalent_repetition (rule : Rule) :
    (optional rule).Equivalent (repetition rule 0 (some 1)) := by
  apply Equivalent.of_recognizer_eq
  intro tokens follow
  exact (rule.recognizer follow).optional_eq_repetition

theorem optional_equivalent_alternative (rule : Rule) :
    (optional rule).Equivalent (alternative [rule, sequence []]) := by
  apply Equivalent.of_recognizer_eq
  intro tokens follow
  rw [recognizer_alternative, firstOf_cons, firstOf_singleton]
  rfl

theorem optional_oneOrMore_equivalent (rule : Rule) :
    (optional rule.oneOrMore).Equivalent rule.zeroOrMore := by
  apply Equivalent.of_recognizer_eq
  intro tokens follow
  exact (rule.recognizer follow).optional_oneOrMore

/-- A sequence in a sequence and an alternative in an alternative can be flattened in place; an
optional rule is one that is repeated at most once, or an alternative to nothing; and what is
optional and repeated at least once is repeated any number of times. Rules that match alike by
themselves do so inside every larger rule and, as the rules of a grammar, behind every reference. -/
theorem builders_equivalent :
    (∀ before inner behind : List Rule,
        (sequence (before ++ sequence inner :: behind)).Equivalent
          (sequence (before ++ (inner ++ behind)))) ∧
      (∀ before inner behind : List Rule,
        (alternative (before ++ alternative inner :: behind)).Equivalent
          (alternative (before ++ (inner ++ behind)))) ∧
      (∀ rule : Rule, (optional rule).Equivalent (repetition rule 0 (some 1)) ∧
        (optional rule).Equivalent (alternative [rule, sequence []])) ∧
      (∀ rule : Rule, (optional rule.oneOrMore).Equivalent rule.zeroOrMore) ∧
      ∀ rule rule' : Rule, rule.Equivalent rule' → ∀ context : RuleContext,
        (context.fill rule).Equivalent (context.fill rule') ∧
          ∀ grammar grammar' : Grammar, grammar.Equivalent grammar' → ∀ tokens start,
            grammar.matchAt (context.fill rule) tokens start =
              grammar'.matchAt (context.fill rule') tokens start := by
  refine ⟨sequence_flatten_equivalent, alternative_flatten_equivalent, ?_,
    optional_oneOrMore_equivalent, ?_⟩
  · intro rule
    exact ⟨rule.optional_equivalent_repetition, rule.optional_equivalent_alternative⟩
  · intro rule rule' h context
    refine ⟨h.fill context, ?_⟩
    intro grammar grammar' hgrammar tokens start
    exact hgrammar.matchAt_eq (h.fill context) start

def listItem : Rule :=
  .alternative [.literal (.kind .integer), .reference "list"]

def listContext : RuleContext :=
  .interpreted (.sequence [.literal (.eq "(")] .hole [.literal (.eq ")")]) (.fact listSchema)

/-- Lists in parentheses that perhaps hold one item or more, which is another way of saying that
they hold any number of them. -/
def respelled : Grammar :=
  Grammar.empty.insertNew "list" (listContext.fill (.optional listItem.oneOrMore))

theorem builders_equivalent_parentheses :
    (optional listItem.oneOrMore).Equivalent listItem.zeroOrMore ∧
      respelled.Equivalent parenthesized ∧
      respelled.matchAt (.reference "list") parentheses 0 =
        some ⟨parentheses, ⟨0, 5⟩,
          [⟨.fact listSchema, ⟨0, 5⟩, 1⟩, ⟨.fact listSchema, ⟨2, 4⟩, 0⟩]⟩ := by
  obtain ⟨_, _, _, hspellings, hcongruence⟩ := builders_equivalent
  have hlist : (listContext.fill (.optional listItem.oneOrMore)).Equivalent
      (listContext.fill listItem.zeroOrMore) :=
    (hcongruence _ _ (hspellings listItem) listContext).1
  have hgrammar : respelled.Equivalent parenthesized := by
    intro name
    rw [respelled, parenthesized, Grammar.get?_insertNew, Grammar.get?_insertNew]
    by_cases hname : name = "list"
    · rw [if_pos hname, if_pos hname]
      exact .some hlist
    · rw [if_neg hname, if_neg hname]
      exact .none
  refine ⟨hspellings listItem, hgrammar, ?_⟩
  have hreference := (hcongruence (.reference "list") (.reference "list") (fun _ _ _ => rfl)
    .hole).2 respelled parenthesized hgrammar parentheses 0
  refine hreference.trans ?_
  rw [RuleContext.fill, Grammar.matchAt_eq_ite, if_neg (by decide), Grammar.eval_parentheses]
  rfl

end Rule

end FactGrammar
