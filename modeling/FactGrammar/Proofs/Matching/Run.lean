import FactGrammar.Matching.Engine

/-!
Runs of the matcher, step by step. A run says what is done in a state, how it comes out, and in
which states rules are attempted on the way. Nothing in it bounds how long it may be: that there is
a run for every rule in every state is what ends the matching.
-/

namespace FactGrammar

/-- What the matcher can be busy with. -/
inductive Task where
  | attempt (rule : Rule)
  | inTurn (rules : List Rule) (first : MatchState)
  | firstOf (rules : List Rule)
  /-- A repetition that was begun in a state and has matched `count` times. -/
  | again (rule : Rule) (least : Nat) (most : Option Nat) (count : Nat) (first : MatchState)

namespace Attempt

def map (f : MatchState → MatchState) : Attempt → Attempt
  | matched s => matched (f s)
  | failed s => failed (f s)

def ofCount (first : MatchState) (least count : Nat) (s : MatchState) : Attempt :=
  if count < least then failed (s.restore first) else matched s

theorem map_state (f : MatchState → MatchState) (o : Attempt) : (o.map f).state = f o.state := by
  cases o <;> rfl

theorem ofCount_depth (first : MatchState) (least count : Nat) (s : MatchState) :
    (ofCount first least count s).state.depth = s.depth := by
  unfold ofCount
  split <;> rfl

end Attempt

/-- A run of a task from a state to its outcome, with the states in which it attempts rules. -/
inductive Runs (grammar : Grammar) (tokens : List Token) :
    Task → MatchState → Attempt → List MatchState → Prop where
  | literalAccepted : tokens[s.cursor]?.any (predicate.test ·) = true →
      Runs grammar tokens (.attempt (.literal predicate)) s
        (.matched { s with cursor := s.cursor + 1 }) [s]
  | literalRefused : tokens[s.cursor]?.any (predicate.test ·) = false →
      Runs grammar tokens (.attempt (.literal predicate)) s (.failed s) [s]
  | sequence : Runs grammar tokens (.inTurn rules s) s o visited →
      Runs grammar tokens (.attempt (.sequence rules)) s o (s :: visited)
  | inTurnDone : Runs grammar tokens (.inTurn [] first) s (.matched s) []
  | inTurnBroken : Runs grammar tokens (.attempt rule) s (.failed s') visited →
      Runs grammar tokens (.inTurn (rule :: rest) first) s (.failed (s'.restore first)) visited
  | inTurnNext : Runs grammar tokens (.attempt rule) s (.matched s') visited →
      Runs grammar tokens (.inTurn rest first) s' o visited' →
      Runs grammar tokens (.inTurn (rule :: rest) first) s o (visited ++ visited')
  | alternative : Runs grammar tokens (.firstOf rules) s o visited →
      Runs grammar tokens (.attempt (.alternative rules)) s o (s :: visited)
  | firstOfNone : Runs grammar tokens (.firstOf []) s (.failed s) []
  | firstOfFound : Runs grammar tokens (.attempt rule) s (.matched s') visited →
      Runs grammar tokens (.firstOf (rule :: rest)) s (.matched s') visited
  | firstOfNext : Runs grammar tokens (.attempt rule) s (.failed s') visited →
      Runs grammar tokens (.firstOf rest) s' o visited' →
      Runs grammar tokens (.firstOf (rule :: rest)) s o (visited ++ visited')
  | negationAtEnd : tokens.length ≤ s.cursor →
      Runs grammar tokens (.attempt (.negation rule)) s (.failed s) [s]
  | negationPresent : s.cursor < tokens.length →
      Runs grammar tokens (.attempt rule) s (.matched s') visited →
      Runs grammar tokens (.attempt (.negation rule)) s (.failed (s'.restore s)) (s :: visited)
  | negationAbsent : s.cursor < tokens.length →
      Runs grammar tokens (.attempt rule) s (.failed s') visited →
      Runs grammar tokens (.attempt (.negation rule)) s
        (.matched { s' with cursor := s'.cursor + 1 }) (s :: visited)
  | optional : Runs grammar tokens (.attempt rule) s o visited →
      Runs grammar tokens (.attempt (.optional rule)) s (.matched o.state) (s :: visited)
  | repetition : Runs grammar tokens (.again rule least most 0 s) s o visited →
      Runs grammar tokens (.attempt (.repetition rule least most)) s o (s :: visited)
  | againEnough : most.all (count < ·) = false →
      Runs grammar tokens (.again rule least most count first) s (.ofCount first least count s) []
  | againFailed : most.all (count < ·) = true →
      Runs grammar tokens (.attempt rule) s (.failed s') visited →
      Runs grammar tokens (.again rule least most count first) s (.ofCount first least count s')
        visited
  | againInPlace : most.all (count < ·) = true →
      Runs grammar tokens (.attempt rule) s (.matched s') visited → s'.cursor = s.cursor →
      Runs grammar tokens (.again rule least most count first) s
        (.ofCount first least (count + 1) s') visited
  | againFurther : most.all (count < ·) = true →
      Runs grammar tokens (.attempt rule) s (.matched s') visited → s'.cursor ≠ s.cursor →
      Runs grammar tokens (.again rule least most (count + 1) first) s' o visited' →
      Runs grammar tokens (.again rule least most count first) s o (visited ++ visited')
  | referenceUndefined : grammar.get? name = none →
      Runs grammar tokens (.attempt (.reference name)) s (.failed s) [s]
  | referenceTooDeep : grammar.get? name = some target → maxDepth ≤ s.depth →
      Runs grammar tokens (.attempt (.reference name)) s (.failed s) [s]
  | reference : grammar.get? name = some target → s.depth < maxDepth →
      Runs grammar tokens (.attempt target) { s with depth := s.depth + 1 } o visited →
      Runs grammar tokens (.attempt (.reference name)) s
        (o.map fun s' => { s' with depth := s'.depth - 1 }) (s :: visited)
  | interpretedMatched :
      Runs grammar tokens (.attempt rule) { s with tape := s.tape.reserve } (.matched s') visited →
      Runs grammar tokens (.attempt (.interpreted rule binding)) s
        (.matched { s' with tape := s'.tape.fill s.tape.length binding ⟨s.cursor, s'.cursor⟩ })
        (s :: visited)
  | interpretedFailed :
      Runs grammar tokens (.attempt rule) { s with tape := s.tape.reserve } (.failed s') visited →
      Runs grammar tokens (.attempt (.interpreted rule binding)) s (.failed (s'.restore s))
        (s :: visited)

namespace Grammar

variable {grammar : Grammar} {tokens : List Token} {rules : List Rule} {s : MatchState}

def Runnable (grammar : Grammar) (tokens : List Token) (depth : Nat) (rule : Rule) : Prop :=
  ∀ s, s.depth = depth →
    ∃ visited, Runs grammar tokens (.attempt rule) s (grammar.attempt tokens rule s).val visited

theorem attemptAll_runs (h : ∀ rule ∈ rules, Runnable grammar tokens depth rule)
    (hs : s.depth = depth) :
    ∃ visited, Runs grammar tokens (.inTurn rules first) s
      (grammar.attemptAll tokens first rules s).val visited := by
  induction rules generalizing s with
  | nil =>
    rw [attemptAll]
    exact ⟨_, .inTurnDone⟩
  | cons rule rest ih =>
    obtain ⟨hrule, hrest⟩ := List.forall_mem_cons.1 h
    obtain ⟨visited, hrun⟩ := hrule s hs
    rw [attemptAll]
    generalize grammar.attempt tokens rule s = r at hrun ⊢
    obtain ⟨o, b⟩ := r
    cases o with
    | failed s' => exact ⟨_, .inTurnBroken hrun⟩
    | matched s' =>
      obtain ⟨visited', hrun'⟩ := ih hrest (b.depth_eq.trans hs)
      refine ⟨visited ++ visited', .inTurnNext hrun ?_⟩
      dsimp only
      generalize grammar.attemptAll tokens first rest s' = r' at hrun' ⊢
      obtain ⟨o', b'⟩ := r'
      cases o' <;> exact hrun'

theorem attemptAny_runs (h : ∀ rule ∈ rules, Runnable grammar tokens depth rule)
    (hs : s.depth = depth) :
    ∃ visited, Runs grammar tokens (.firstOf rules) s
      (grammar.attemptAny tokens rules s).val visited := by
  induction rules generalizing s with
  | nil =>
    rw [attemptAny]
    exact ⟨_, .firstOfNone⟩
  | cons rule rest ih =>
    obtain ⟨hrule, hrest⟩ := List.forall_mem_cons.1 h
    obtain ⟨visited, hrun⟩ := hrule s hs
    rw [attemptAny]
    generalize grammar.attempt tokens rule s = r at hrun ⊢
    obtain ⟨o, b⟩ := r
    cases o with
    | matched s' => exact ⟨_, .firstOfFound hrun⟩
    | failed s' =>
      obtain ⟨visited', hrun'⟩ := ih hrest (b.1.trans hs)
      refine ⟨visited ++ visited', .firstOfNext hrun ?_⟩
      dsimp only
      generalize grammar.attemptAny tokens rest s' = r' at hrun' ⊢
      obtain ⟨o', b'⟩ := r'
      cases o' <;> exact hrun'

/-- A repetition that goes on has moved to a later token, so the tokens left end it. -/
theorem attemptRepeatedly_runs (h : Runnable grammar tokens depth rule) (hs : s.depth = depth) :
    ∃ visited, Runs grammar tokens (.again rule least most count first) s
      (.ofCount first least (grammar.attemptRepeatedly tokens rule most count s).count
        (grammar.attemptRepeatedly tokens rule most count s).after) visited := by
  generalize hn : tokens.length - s.cursor = n
  induction n using Nat.strongRecOn generalizing s count with
  | _ n ih =>
    rw [attemptRepeatedly]
    by_cases hc : most.all (count < ·) = true
    · obtain ⟨visited, hrun⟩ := h s hs
      rw [if_pos hc]
      generalize grammar.attempt tokens rule s = r at hrun ⊢
      obtain ⟨o, b⟩ := r
      cases o with
      | failed s' => exact ⟨_, .againFailed hc hrun⟩
      | matched s' =>
        have hle := b.le_cursor
        have hmax := b.cursor_le
        by_cases he : s'.cursor = s.cursor
        · dsimp only
          rw [if_pos he]
          exact ⟨_, .againInPlace hc hrun he⟩
        · dsimp only
          rw [if_neg he]
          obtain ⟨visited', hrun'⟩ := ih _ (by omega) (b.depth_eq.trans hs) rfl
          exact ⟨_, .againFurther hc hrun he hrun'⟩
    · rw [if_neg hc]
      exact ⟨_, .againEnough (by simpa using hc)⟩

theorem attempt_runs_of_depth
    (hfollow : ∀ name target, grammar.get? name = some target → depth < maxDepth →
      Runnable grammar tokens (depth + 1) target) (rule : Rule) :
    Runnable grammar tokens depth rule := by
  induction rule with
  | literal predicate =>
    intro s hs
    rw [attempt]
    split
    · rename_i token htoken
      by_cases ht : predicate.test token = true
      · rw [if_pos ht]
        exact ⟨_, .literalAccepted (by rw [htoken]; exact ht)⟩
      · rw [if_neg ht]
        exact ⟨_, .literalRefused (by rw [htoken]; exact eq_false_of_ne_true ht)⟩
    · rename_i htoken
      exact ⟨_, .literalRefused (by rw [htoken]; rfl)⟩
  | sequence rules ih =>
    intro s hs
    obtain ⟨visited, hrun⟩ := attemptAll_runs ih hs
    rw [attempt]
    exact ⟨_, .sequence hrun⟩
  | alternative rules ih =>
    intro s hs
    obtain ⟨visited, hrun⟩ := attemptAny_runs ih hs
    rw [attempt]
    exact ⟨_, .alternative hrun⟩
  | negation rule ih =>
    intro s hs
    rw [attempt]
    by_cases hend : tokens.length ≤ s.cursor
    · rw [dif_pos hend]
      exact ⟨_, .negationAtEnd hend⟩
    · rw [dif_neg hend]
      have hlt := Nat.lt_of_not_le hend
      obtain ⟨visited, hrun⟩ := ih s hs
      generalize grammar.attempt tokens rule s = r at hrun ⊢
      obtain ⟨o, b⟩ := r
      cases o with
      | matched s' => exact ⟨_, .negationPresent hlt hrun⟩
      | failed s' => exact ⟨_, .negationAbsent hlt hrun⟩
  | optional rule ih =>
    intro s hs
    obtain ⟨visited, hrun⟩ := ih s hs
    rw [attempt]
    generalize grammar.attempt tokens rule s = r at hrun ⊢
    obtain ⟨o, b⟩ := r
    cases o <;> exact ⟨_, .optional hrun⟩
  | repetition rule least most ih =>
    intro s hs
    obtain ⟨visited, hrun⟩ : ∃ visited, Runs grammar tokens (.again rule least most 0 s) s
        (.ofCount s least (grammar.attemptRepeatedly tokens rule most 0 s).count
          (grammar.attemptRepeatedly tokens rule most 0 s).after) visited :=
      attemptRepeatedly_runs ih hs
    have hrun := Runs.repetition hrun
    rw [attempt]
    dsimp only [Attempt.ofCount] at hrun ⊢
    split
    · rw [if_pos ‹_›] at hrun
      exact ⟨_, hrun⟩
    · rw [if_neg ‹_›] at hrun
      exact ⟨_, hrun⟩
  | reference name =>
    intro s hs
    rw [attempt]
    split
    · rename_i hname
      exact ⟨_, .referenceUndefined hname⟩
    · rename_i target hname
      by_cases hdepth : maxDepth ≤ s.depth
      · rw [if_pos hdepth]
        exact ⟨_, .referenceTooDeep hname hdepth⟩
      · rw [if_neg hdepth]
        have hlt := Nat.lt_of_not_le hdepth
        obtain ⟨visited, hrun⟩ :=
          hfollow name target hname (hs ▸ hlt) { s with depth := s.depth + 1 } (by rw [hs])
        have hrun := Runs.reference hname hlt hrun
        generalize grammar.attempt tokens target { s with depth := s.depth + 1 } = r at hrun ⊢
        obtain ⟨o, b⟩ := r
        cases o <;> exact ⟨_, hrun⟩
  | interpreted rule binding ih =>
    intro s hs
    obtain ⟨visited, hrun⟩ := ih { s with tape := s.tape.reserve } hs
    rw [attempt]
    generalize grammar.attempt tokens rule { s with tape := s.tape.reserve } = r at hrun ⊢
    obtain ⟨o, b⟩ := r
    cases o with
    | matched s' => exact ⟨_, .interpretedMatched hrun⟩
    | failed s' => exact ⟨_, .interpretedFailed hrun⟩

/-- Each reference that is followed leaves fewer to follow. -/
theorem runnable (grammar : Grammar) (tokens : List Token) (depth : Nat) (rule : Rule) :
    Runnable grammar tokens depth rule := by
  generalize hn : maxDepth - depth = n
  induction n generalizing depth rule with
  | zero => exact attempt_runs_of_depth (fun _ _ _ hlt => by omega) rule
  | succ n ih => exact attempt_runs_of_depth (fun _ target _ _ => ih _ target (by omega)) rule

end Grammar

namespace Runs

variable {grammar : Grammar} {tokens : List Token}

theorem depth_eq (h : Runs grammar tokens task s o visited) : o.state.depth = s.depth := by
  induction h with
  | literalAccepted | literalRefused | inTurnDone | firstOfNone | negationAtEnd
  | referenceUndefined | referenceTooDeep => rfl
  | sequence _ ih | alternative _ ih | repetition _ ih | optional _ ih
  | inTurnBroken _ ih | firstOfFound _ ih | negationPresent _ _ ih | negationAbsent _ _ ih
  | interpretedMatched _ ih | interpretedFailed _ ih => exact ih
  | inTurnNext _ _ ih ih' | firstOfNext _ _ ih ih' | againFurther _ _ _ _ ih ih' =>
    exact ih'.trans ih
  | againEnough => exact Attempt.ofCount_depth ..
  | againFailed _ _ ih | againInPlace _ _ _ ih => exact (Attempt.ofCount_depth ..).trans ih
  | reference _ _ _ ih =>
    rw [Attempt.map_state]
    exact congrArg (· - 1) ih

/-- A reference is followed only where the depth leaves room for one more. -/
theorem depth_le (h : Runs grammar tokens task s o visited) (hs : s.depth ≤ maxDepth) :
    ∀ v ∈ visited, v.depth ≤ maxDepth := by
  induction h with
  | literalAccepted | literalRefused | negationAtEnd | referenceUndefined | referenceTooDeep =>
    exact List.forall_mem_singleton.2 hs
  | inTurnDone | firstOfNone | againEnough => exact List.forall_mem_nil _
  | sequence _ ih | alternative _ ih | repetition _ ih | optional _ ih
  | negationPresent _ _ ih | negationAbsent _ _ ih
  | interpretedMatched _ ih | interpretedFailed _ ih =>
    exact List.forall_mem_cons.2 ⟨hs, ih hs⟩
  | inTurnBroken _ ih | firstOfFound _ ih | againFailed _ _ ih | againInPlace _ _ _ ih =>
    exact ih hs
  | inTurnNext h _ ih ih' | firstOfNext h _ ih ih' | againFurther _ h _ _ ih ih' =>
    have hs' := Nat.le_trans (Nat.le_of_eq h.depth_eq) hs
    exact List.forall_mem_append.2 ⟨ih hs, ih' hs'⟩
  | reference _ hlt _ ih => exact List.forall_mem_cons.2 ⟨hs, ih hlt⟩

end Runs

end FactGrammar
