import FactGrammar.Proofs.Matching.Recognizer

namespace FactGrammar

def afterToken (accepts : Token → Bool) (tokens : List Token) (p : Nat) : Option Nat :=
  if tokens[p]?.any accepts then some (p + 1) else none

def afterRun (accepts : Token → Bool) (tokens : List Token) (p : Nat) : Nat :=
  p + ((tokens.drop p).takeWhile accepts).length

def afterSome (accepts : Token → Bool) (tokens : List Token) (p : Nat) : Option Nat :=
  if p < afterRun accepts tokens p then some (afterRun accepts tokens p) else none

/-- The first place from `p` on with a token that is accepted. -/
def firstFrom (accepts : Token → Bool) (tokens : List Token) (p : Nat) : Option Nat :=
  ((tokens.drop p).findIdx? accepts).map (p + ·)

/-- The span from a place up to the first token that is accepted, which is not at that place. -/
def spanUpTo (accepts : Token → Bool) (tokens : List Token) (p : Nat) : Option Span := do
  let q ← firstFrom accepts tokens p
  if p < q then some ⟨p, q⟩ else none

def tokenSpan (accepts : Token → Bool) (tokens : List Token) (p : Nat) : Option Span :=
  (afterToken accepts tokens p).map fun q => ⟨p, q⟩

structure Span.IsStretch (span : Span) (tokens : List Token) : Prop where
  start_lt : span.start < span.stop
  stop_le : span.stop ≤ tokens.length

/-- The place behind a span, or the place where it would have begun. -/
def afterSpan? (p : Nat) : Option Span → Nat
  | some span => span.stop
  | none => p

variable {accepts : Token → Bool} {tokens : List Token} {p q : Nat}

theorem afterToken_eq_some_iff :
    afterToken accepts tokens p = some q ↔
      (∃ t, tokens[p]? = some t ∧ accepts t = true) ∧ p + 1 = q := by
  rw [afterToken, Option.ite_none_right_eq_some, Option.any_eq_true, Option.some.injEq]

theorem afterToken_eq (accepts : Token → Bool) (tokens : List Token) (p : Nat) :
    afterToken accepts tokens p = (tokens[p]?.filter accepts).map fun _ => p + 1 := by
  rw [afterToken]
  cases tokens[p]? with
  | none => rfl
  | some t =>
    rw [Option.any_some, Option.filter_some]
    split <;> rfl

theorem lt_of_afterToken (h : afterToken accepts tokens p = some q) :
    p < q ∧ q ≤ tokens.length := by
  obtain ⟨⟨t, ht, _⟩, rfl⟩ := afterToken_eq_some_iff.1 h
  exact ⟨Nat.lt_succ_self p, (List.getElem?_eq_some_iff.1 ht).1⟩

theorem tokenSpan_eq_some_iff {span : Span} :
    tokenSpan accepts tokens p = some span ↔
      (∃ t, tokens[p]? = some t ∧ accepts t = true) ∧ ⟨p, p + 1⟩ = span := by
  rw [tokenSpan, Option.map_eq_some_iff]
  constructor
  · rintro ⟨q, hq, rfl⟩
    obtain ⟨ht, rfl⟩ := afterToken_eq_some_iff.1 hq
    exact ⟨ht, rfl⟩
  · rintro ⟨ht, rfl⟩
    exact ⟨p + 1, afterToken_eq_some_iff.2 ⟨ht, rfl⟩, rfl⟩

theorem isStretch_of_tokenSpan {span : Span} (h : tokenSpan accepts tokens p = some span) :
    span.IsStretch tokens := by
  obtain ⟨⟨t, ht, _⟩, rfl⟩ := tokenSpan_eq_some_iff.1 h
  exact ⟨Nat.lt_succ_self p, (List.getElem?_eq_some_iff.1 ht).1⟩

theorem le_afterRun (accepts : Token → Bool) (tokens : List Token) (p : Nat) :
    p ≤ afterRun accepts tokens p :=
  Nat.le_add_right p _

theorem afterRun_le (h : p ≤ tokens.length) : afterRun accepts tokens p ≤ tokens.length := by
  have hle : ((tokens.drop p).takeWhile accepts).length ≤ (tokens.drop p).length :=
    (List.takeWhile_prefix accepts).length_le
  rw [List.length_drop] at hle
  rw [afterRun]
  omega

theorem afterSome_eq_some_iff :
    afterSome accepts tokens p = some q ↔ p < q ∧ afterRun accepts tokens p = q := by
  rw [afterSome, Option.ite_none_right_eq_some, Option.some.injEq]
  constructor
  · rintro ⟨hlt, rfl⟩
    exact ⟨hlt, rfl⟩
  · rintro ⟨hlt, rfl⟩
    exact ⟨hlt, rfl⟩

theorem getD_afterSome (accepts : Token → Bool) (tokens : List Token) (p : Nat) :
    (afterSome accepts tokens p).getD p = afterRun accepts tokens p := by
  rw [afterSome]
  split
  · rfl
  · have := le_afterRun accepts tokens p
    rw [Option.getD_none]
    omega

theorem lt_of_afterSome (h : afterSome accepts tokens p = some q) : p < q ∧ q ≤ tokens.length := by
  obtain ⟨hlt, rfl⟩ := afterSome_eq_some_iff.1 h
  rcases Nat.le_total p tokens.length with hle | hend
  · exact ⟨hlt, afterRun_le hle⟩
  · rw [afterRun, List.drop_eq_nil_of_le hend] at hlt
    exact absurd hlt (Nat.lt_irrefl p)

theorem isStretch_of_afterSome (h : afterSome accepts tokens p = some q) :
    (⟨p, q⟩ : Span).IsStretch tokens :=
  ⟨(lt_of_afterSome h).1, (lt_of_afterSome h).2⟩

theorem afterRun_of_refused (h : afterToken accepts tokens p = none) :
    afterRun accepts tokens p = p := by
  rw [afterRun]
  cases ht : tokens[p]? with
  | none =>
    rw [List.drop_eq_nil_of_le (List.getElem?_eq_none_iff.1 ht)]
    rfl
  | some t =>
    obtain ⟨hp, rfl⟩ := List.getElem?_eq_some_iff.1 ht
    have hrefused : ¬ accepts tokens[p] = true := fun hacc => by
      rw [afterToken_eq_some_iff.2 ⟨⟨_, ht, hacc⟩, rfl⟩] at h
      cases h
    rw [List.drop_eq_getElem_cons hp, List.takeWhile_cons_of_neg hrefused]
    rfl

theorem afterRun_of_accepted (h : afterToken accepts tokens p = some q) :
    afterRun accepts tokens p = afterRun accepts tokens q := by
  obtain ⟨⟨t, ht, hacc⟩, rfl⟩ := afterToken_eq_some_iff.1 h
  obtain ⟨hp, rfl⟩ := List.getElem?_eq_some_iff.1 ht
  rw [afterRun, afterRun, List.drop_eq_getElem_cons hp, List.takeWhile_cons_of_pos hacc,
    List.length_cons]
  omega

theorem afterToken_of_end (h : tokens.length ≤ p) : afterToken accepts tokens p = none := by
  rw [afterToken, List.getElem?_eq_none h]
  rfl

theorem afterSome_of_end (h : tokens.length ≤ p) : afterSome accepts tokens p = none := by
  rw [afterSome, afterRun_of_refused (afterToken_of_end h), if_neg (Nat.lt_irrefl p)]

theorem findIdx?_eq_length_takeWhile (f : α → Bool) (xs : List α) :
    xs.findIdx? f =
      xs[(xs.takeWhile (!f ·)).length]?.map fun _ => (xs.takeWhile (!f ·)).length := by
  induction xs with
  | nil => rfl
  | cons x xs ih =>
    rw [List.findIdx?_cons, ih]
    cases hx : f x with
    | true =>
      rw [List.takeWhile_cons_of_neg (by simp [hx])]
      rfl
    | false =>
      rw [List.takeWhile_cons_of_pos (by simp [hx]), List.length_cons, List.getElem?_cons_succ]
      exact Option.map_map _ _ _

/-- The search ends behind the longest run of tokens that are not accepted. -/
theorem firstFrom_eq (accepts : Token → Bool) (tokens : List Token) (p : Nat) :
    firstFrom accepts tokens p =
      tokens[afterRun (!accepts ·) tokens p]?.map fun _ => afterRun (!accepts ·) tokens p := by
  rw [firstFrom, findIdx?_eq_length_takeWhile, Option.map_map, List.getElem?_drop]
  rfl

theorem firstFrom_eq_some_iff :
    firstFrom accepts tokens p = some q ↔
      p ≤ q ∧ (∃ t, tokens[q]? = some t ∧ accepts t = true) ∧
        ∀ i t, p ≤ i → i < q → tokens[i]? = some t → accepts t = false := by
  rw [firstFrom, Option.map_eq_some_iff]
  simp only [List.findIdx?_eq_some_iff_getElem, List.getElem_drop, List.length_drop]
  constructor
  · rintro ⟨n, ⟨hn, hfound, hbefore⟩, rfl⟩
    have hlt : p + n < tokens.length := by omega
    refine ⟨Nat.le_add_right p n, ⟨_, List.getElem?_eq_getElem hlt, hfound⟩, ?_⟩
    intro i t hp hi ht
    obtain ⟨_, rfl⟩ := List.getElem?_eq_some_iff.1 ht
    have hrefused := hbefore (i - p) (by omega)
    simp only [Nat.add_sub_cancel' hp] at hrefused
    exact Bool.eq_false_iff.2 hrefused
  · rintro ⟨hp, ⟨t, ht, hfound⟩, hbefore⟩
    obtain ⟨hq, rfl⟩ := List.getElem?_eq_some_iff.1 ht
    refine ⟨q - p, ⟨by omega, ?_, ?_⟩, Nat.add_sub_cancel' hp⟩
    · simpa only [Nat.add_sub_cancel' hp] using hfound
    · intro j hj
      have hlt : p + j < tokens.length := by omega
      rw [hbefore (p + j) _ (Nat.le_add_right p j) (by omega) (List.getElem?_eq_getElem hlt)]
      exact Bool.false_ne_true

theorem accepts_of_afterRun {t : Token} (h : tokens[afterRun (!accepts ·) tokens p]? = some t) :
    accepts t = true := by
  have hfirst : firstFrom accepts tokens p = some (afterRun (!accepts ·) tokens p) := by
    rw [firstFrom_eq, h]
    rfl
  obtain ⟨_, ⟨t', ht', haccepts⟩, _⟩ := firstFrom_eq_some_iff.1 hfirst
  cases h.symm.trans ht'
  exact haccepts

theorem spanUpTo_eq_some_iff {span : Span} :
    spanUpTo accepts tokens p = some span ↔
      span.start = p ∧ firstFrom accepts tokens p = some span.stop ∧ p < span.stop := by
  obtain ⟨start, stop⟩ := span
  rw [spanUpTo, Option.bind_eq_bind, Option.bind_eq_some_iff]
  simp only [Option.ite_none_right_eq_some, Option.some.injEq, Span.mk.injEq]
  constructor
  · rintro ⟨q, hq, hlt, rfl, rfl⟩
    exact ⟨rfl, hq, hlt⟩
  · rintro ⟨rfl, hq, hlt⟩
    exact ⟨stop, hq, hlt, rfl, rfl⟩

theorem bind_afterSome (accepts : Token → Bool) (tokens : List Token) (p : Nat)
    (g : Nat → Nat → Option α) :
    ((afterSome (!accepts ·) tokens p).bind fun last =>
        (afterToken accepts tokens last).bind (g last)) =
      (spanUpTo accepts tokens p).bind fun span => g span.stop (span.stop + 1) := by
  rw [spanUpTo, firstFrom_eq, afterSome, Option.bind_eq_bind]
  cases ht : tokens[afterRun (!accepts ·) tokens p]? with
  | none =>
    have hnone : afterToken accepts tokens (afterRun (!accepts ·) tokens p) = none := by
      rw [afterToken, ht]
      rfl
    rw [Option.map_none, Option.bind_none]
    split
    · rw [Option.bind_some, hnone]
      rfl
    · rfl
  | some t =>
    have hsome := afterToken_eq_some_iff.2 ⟨⟨t, ht, accepts_of_afterRun ht⟩, rfl⟩
    rw [Option.map_some, Option.bind_some]
    split
    · rw [Option.bind_some, hsome]
      rfl
    · rfl

namespace Recognizer

/-- Matches without capturing anything; `stop` gives the place behind the match. -/
def Skips (r : Recognizer tokens) (stop : Nat → Option Nat) : Prop :=
  ∀ p, r.run p = (stop p).map fun q => (q, .nil)

namespace Skips

variable {r r' : Recognizer tokens} {stop stop' : Nat → Option Nat}

theorem token : (token accepts : Recognizer tokens).Skips (afterToken accepts tokens) := by
  intro p
  rw [run_token, afterToken]
  split <;> rfl

theorem run_andThen (h : r.Skips stop) (r' : Recognizer tokens) (p : Nat) :
    (r.andThen r').run p = (stop p).bind r'.run := by
  rw [Recognizer.run_andThen, h p]
  cases stop p with
  | none => rfl
  | some q => exact Option.map_id'

theorem andThen (h : r.Skips stop) (h' : r'.Skips stop') :
    (r.andThen r').Skips fun p => (stop p).bind stop' := by
  intro p
  rw [h.run_andThen, Option.map_bind]
  exact congrArg (stop p).bind (funext h')

theorem optional (h : r.Skips stop) : r.optional.Skips fun p => some ((stop p).getD p) := by
  intro p
  rw [run_optional, h p]
  dsimp only
  cases stop p <;> rfl

theorem run_interpreted (h : r.Skips stop) (binding : Binding) (p : Nat) :
    (r.interpreted binding).run p =
      (stop p).map fun q => (q, .cons binding ⟨p, q⟩ .nil .nil) := by
  rw [Recognizer.run_interpreted, h p, Option.map_map]
  rfl

end Skips

theorem run_interpreted_located {r : Recognizer tokens} {located? : Option α} {span : α → Span}
    {forest : α → CaptureForest}
    (hrun : r.run p = located?.map fun located => ((span located).stop, forest located))
    (hstart : ∀ located, located? = some located → (span located).start = p) (binding : Binding) :
    (r.interpreted binding).run p = located?.map fun located =>
      ((span located).stop, .cons binding (span located) (forest located) .nil) := by
  rw [run_interpreted, hrun]
  cases located? with
  | none => rfl
  | some located =>
    obtain rfl := hstart located rfl
    rfl

theorem run_interpreted_token (binding : Binding) :
    ((token accepts : Recognizer tokens).interpreted binding).run p =
      (tokenSpan accepts tokens p).map fun span =>
        (span.stop, .ofSpan? binding (some span)) := by
  rw [Skips.token.run_interpreted, tokenSpan, Option.map_map]
  rfl

theorem run_optional_token (binding : Binding) :
    ((token accepts : Recognizer tokens).interpreted binding).optional.run p =
      some (afterSpan? p (tokenSpan accepts tokens p),
        .ofSpan? binding (tokenSpan accepts tokens p)) := by
  rw [run_optional, run_interpreted_token]
  cases tokenSpan accepts tokens p <;> rfl

theorem negation_token (accepts : Token → Bool) :
    (token accepts : Recognizer tokens).negation = token (!accepts ·) := by
  refine ext fun p => ?_
  rw [run_negation, run_token, run_token]
  cases ht : tokens[p]? with
  | none =>
    rw [if_neg fun h => Nat.not_lt.2 (List.getElem?_eq_none_iff.1 ht) h.1]
    rfl
  | some t =>
    obtain ⟨hp, _⟩ := List.getElem?_eq_some_iff.1 ht
    rw [Option.any_some, Option.any_some]
    cases accepts t with
    | true => exact if_neg fun h => by cases h.2
    | false => exact if_pos ⟨hp, rfl⟩

theorem orElse_token (accepts accepts' : Token → Bool) :
    (token accepts : Recognizer tokens).orElse (token accepts') =
      token fun t => accepts t || accepts' t := by
  refine ext fun p => ?_
  rw [run_orElse, run_token, run_token, run_token]
  cases tokens[p]? with
  | none => rfl
  | some t =>
    rw [Option.any_some, Option.any_some, Option.any_some]
    cases accepts t with
    | true => rfl
    | false => exact Option.none_or

theorem iterate_token (accepts : Token → Bool) (p : Nat) :
    (token accepts : Recognizer tokens).iterate none p =
      ⟨afterRun accepts tokens p - p, afterRun accepts tokens p, .nil⟩ := by
  generalize hn : tokens.length - p = n
  induction n using Nat.strongRecOn generalizing p with
  | _ n ih =>
    have hrun : (token accepts : Recognizer tokens).run p = _ := Skips.token p
    cases hp : afterToken accepts tokens p with
    | none =>
      rw [hp] at hrun
      rw [iterate_of_none (by simp) hrun, afterRun_of_refused hp, Nat.sub_self]
    | some q =>
      rw [hp] at hrun
      obtain ⟨hlt, hle⟩ := lt_of_afterToken hp
      obtain ⟨_, rfl⟩ := afterToken_eq_some_iff.1 hp
      have := le_afterRun accepts tokens (p + 1)
      have hcount : afterRun accepts tokens (p + 1) - (p + 1) + 1 =
          afterRun accepts tokens (p + 1) - p := by
        omega
      rw [iterate_of_further (by simp) hrun (by omega), Option.map_none, ih _ (by omega) _ rfl,
        afterRun_of_accepted hp, Iteration.next, hcount]
      rfl

namespace Skips

theorem oneOrMore_token :
    ((Recognizer.token accepts : Recognizer tokens).repetition 1 none).Skips
      (afterSome accepts tokens) := by
  intro p
  rw [run_repetition, iterate_token, Iteration.atLeast, afterSome]
  by_cases h : p < afterRun accepts tokens p
  · rw [if_pos h, if_neg (by dsimp only; omega), Option.map_some]
  · rw [if_neg h, if_pos (by dsimp only; omega), Option.map_none]

theorem zeroOrMore_token :
    ((Recognizer.token accepts : Recognizer tokens).repetition 0 none).Skips
      fun p => some (afterRun accepts tokens p) := by
  intro p
  rw [run_repetition, iterate_token, Iteration.atLeast, if_neg (Nat.not_lt_zero _)]
  rfl

end Skips

end Recognizer

end FactGrammar
