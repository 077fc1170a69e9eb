import FactGrammar.Matching.Match
import FactGrammar.Proofs.Matching.Recognizer
import FactGrammar.Proofs.Matching.Run

namespace FactGrammar

namespace Tape

/-- Filling the slot that was reserved last before some others. -/
theorem fill_reserve (tape slots : Tape) (binding : Binding) (span : Span) :
    fill (tape.reserve ++ slots) tape.length binding span =
      tape ++ .filled ⟨binding, span, slots.length⟩ :: slots := by
  have hlength : (tape.reserve ++ slots).length - tape.length - 1 = slots.length := by
    simp only [reserve, List.length_append, List.length_singleton]
    omega
  rw [fill, hlength, reserve, List.append_assoc, List.set_append_right _ _ (Nat.le_refl _)]
  simp

theorem captures_map_filled (captures : List Capture) :
    Tape.captures (captures.map .filled) = captures := by
  rw [Tape.captures, List.filterMap_map]
  exact List.filterMap_some

end Tape

namespace MatchState

/-- The state after a match that ends at `stop`, with its captures behind those on the tape. -/
def extend (s : MatchState) (stop : Nat) (forest : CaptureForest) : MatchState :=
  { s with cursor := stop, tape := s.tape ++ forest.flatten.map .filled }

/-- The later state lies inside the same references and has only added to the tape. -/
def Extends (later earlier : MatchState) : Prop :=
  later.depth = earlier.depth ∧ earlier.tape <+: later.tape

theorem Extends.refl (s : MatchState) : s.Extends s :=
  ⟨rfl, List.prefix_refl _⟩

theorem Extends.extend (h : Extends s first) (stop : Nat) (forest : CaptureForest) :
    (s.extend stop forest).Extends first :=
  ⟨h.1, h.2.trans (List.prefix_append _ _)⟩

theorem Extends.restore (h : Extends s first) : s.restore first = first := by
  obtain ⟨hdepth, htape⟩ := h
  have htake := List.prefix_iff_eq_take.1 htape
  rw [MatchState.restore, ← htake, hdepth]

theorem extend_extend (s : MatchState) (p q : Nat) (f g : CaptureForest) :
    (s.extend p f).extend q g = s.extend q (f ++ g) := by
  simp only [MatchState.extend, CaptureForest.flatten_append, List.map_append, List.append_assoc]

@[simp] theorem extend_nil (s : MatchState) (stop : Nat) :
    s.extend stop .nil = { s with cursor := stop } := by
  simp only [MatchState.extend, CaptureForest.flatten, List.map_nil, List.append_nil]

end MatchState

namespace Attempt

/-- The attempt that a result of matching from a state stands for, when a failure leads back to
`origin`. -/
def ofResult (origin s : MatchState) : Option (Nat × CaptureForest) → Attempt
  | none => .failed origin
  | some (stop, forest) => .matched (s.extend stop forest)

theorem failed_eq_ofResult (h : failed s' = ofResult origin s r) : r = none ∧ s' = origin := by
  cases r with
  | none => cases h; exact ⟨rfl, rfl⟩
  | some => cases h

theorem matched_eq_ofResult (h : matched s' = ofResult origin s r) :
    ∃ stop forest, r = some (stop, forest) ∧ s' = s.extend stop forest := by
  cases r with
  | none => cases h
  | some r => cases h; exact ⟨r.1, r.2, rfl, rfl⟩

theorem ofResult_extend (origin s : MatchState) (stop : Nat) (forest : CaptureForest)
    (r : Option (Nat × CaptureForest)) :
    ofResult origin (s.extend stop forest) r =
      ofResult origin s (r.map fun o => (o.1, forest ++ o.2)) := by
  cases r with
  | none => rfl
  | some r => exact congrArg matched (s.extend_extend ..)

theorem ofCount_eq_ofResult (h : s.Extends first) (least count n stop : Nat)
    (forest : CaptureForest) :
    ofCount first least (count + n) (s.extend stop forest) =
      ofResult first s (Iteration.atLeast ⟨n, stop, forest⟩ (least - count)) := by
  rw [ofCount, Iteration.atLeast, (h.extend stop forest).restore]
  by_cases hn : count + n < least
  · rw [if_pos hn, if_pos (by omega : n < least - count), ofResult]
  · rw [if_neg hn, if_neg (by omega : ¬ n < least - count), ofResult]

end Attempt

/-- What a task comes to, by the meaning of its rules. One that was begun in an earlier state goes
back to that state when it fails, which undoes everything only if the tape has just been added to.
-/
def Task.Means (grammar : Grammar) (tokens : List Token) (s : MatchState) (o : Attempt) :
    Task → Prop
  | .attempt rule =>
    o = .ofResult s s
      ((rule.recognizer (grammar.follow tokens (maxDepth - s.depth))).run s.cursor)
  | .inTurn rules first =>
    s.Extends first →
      o = .ofResult first s
        ((Rule.inTurn (grammar.follow tokens (maxDepth - s.depth)) rules).run s.cursor)
  | .firstOf rules =>
    o = .ofResult s s
      ((Rule.firstOf (grammar.follow tokens (maxDepth - s.depth)) rules).run s.cursor)
  | .again rule least most count first =>
    s.Extends first →
      o = .ofResult first s
        (((rule.recognizer (grammar.follow tokens (maxDepth - s.depth))).iterate
          (most.map (· - count)) s.cursor).atLeast (least - count))

theorem remaining_eq_zero {most : Option Nat} (h : most.all (count < ·) = false) :
    most.map (· - count) = some 0 := by
  cases most with
  | none => cases h
  | some n =>
    have : ¬ count < n := of_decide_eq_false h
    rw [Option.map_some, Nat.sub_eq_zero_of_le (Nat.le_of_not_lt this)]

theorem remaining_ne_zero {most : Option Nat} (h : most.all (count < ·) = true) :
    most.map (· - count) ≠ some 0 := by
  cases most with
  | none => simp
  | some n =>
    have : count < n := of_decide_eq_true h
    simp only [Option.map_some, ne_eq, Option.some.injEq]
    omega

namespace Runs

variable {grammar : Grammar} {tokens : List Token}

theorem means (h : Runs grammar tokens task s o visited) : task.Means grammar tokens s o := by
  induction h with
  | literalAccepted h =>
    rw [Task.Means, Rule.recognizer, Recognizer.run_token, if_pos h, Attempt.ofResult,
      MatchState.extend_nil]
  | literalRefused h =>
    rw [Task.Means, Rule.recognizer, Recognizer.run_token, h, if_neg Bool.false_ne_true]
    rfl
  | sequence _ ih => exact ih (.refl _)
  | inTurnDone =>
    intro hs
    rw [Rule.inTurn, Recognizer.run_empty, Attempt.ofResult, MatchState.extend_nil]
  | inTurnBroken _ ih =>
    -- The broken rule has left no trace, so going back drops what the rules before it captured.
    intro hs
    obtain ⟨hnone, rfl⟩ := Attempt.failed_eq_ofResult ih
    rw [hs.restore, Rule.inTurn, Recognizer.run_andThen, hnone]
    rfl
  | inTurnNext _ _ ih ih' =>
    intro hs
    obtain ⟨stop, forest, hsome, rfl⟩ := Attempt.matched_eq_ofResult ih
    rw [ih' (hs.extend stop forest), Attempt.ofResult_extend, Rule.inTurn, Recognizer.run_andThen,
      hsome]
    rfl
  | alternative _ ih => exact ih
  | firstOfNone => rfl
  | firstOfFound _ ih =>
    obtain ⟨stop, forest, hsome, rfl⟩ := Attempt.matched_eq_ofResult ih
    rw [Task.Means, Rule.firstOf, Recognizer.run_orElse, hsome]
    rfl
  | firstOfNext _ _ ih ih' =>
    obtain ⟨hnone, rfl⟩ := Attempt.failed_eq_ofResult ih
    rw [Task.Means, Rule.firstOf, Recognizer.run_orElse, hnone]
    exact ih'
  | negationAtEnd h =>
    rw [Task.Means, Rule.recognizer, Recognizer.run_negation, if_neg fun hp => Nat.not_lt.2 h hp.1]
    rfl
  | negationPresent h _ ih =>
    obtain ⟨stop, forest, hsome, rfl⟩ := Attempt.matched_eq_ofResult ih
    rw [((MatchState.Extends.refl _).extend stop forest).restore, Task.Means, Rule.recognizer,
      Recognizer.run_negation, hsome, if_neg fun hp => by cases hp.2]
    rfl
  | negationAbsent h _ ih =>
    obtain ⟨hnone, rfl⟩ := Attempt.failed_eq_ofResult ih
    rw [Task.Means, Rule.recognizer, Recognizer.run_negation, if_pos ⟨h, hnone⟩, Attempt.ofResult,
      MatchState.extend_nil]
  | optional _ ih =>
    rw [ih, Task.Means, Rule.recognizer, Recognizer.run_optional]
    generalize (Rule.recognizer _ _).run _ = r
    cases r with
    | none => exact congrArg Attempt.matched (MatchState.extend_nil ..).symm
    | some r => rfl
  | repetition _ ih =>
    rw [ih (.refl _), Task.Means, Rule.recognizer, Recognizer.run_repetition]
    simp only [Nat.sub_zero, Option.map_id']
  | @againEnough most count rule least first s h =>
    intro hs
    rw [remaining_eq_zero h, Recognizer.iterate_of_limit, ← Attempt.ofCount_eq_ofResult hs,
      MatchState.extend_nil, Nat.add_zero]
  | @againFailed most count rule s s' visited least first h _ ih =>
    intro hs
    obtain ⟨hnone, rfl⟩ := Attempt.failed_eq_ofResult ih
    rw [Recognizer.iterate_of_none (remaining_ne_zero h) hnone, ← Attempt.ofCount_eq_ofResult hs,
      MatchState.extend_nil, Nat.add_zero]
  | againInPlace h _ he ih =>
    intro hs
    obtain ⟨stop, forest, hsome, rfl⟩ := Attempt.matched_eq_ofResult ih
    cases he
    rw [Recognizer.iterate_of_inPlace (remaining_ne_zero h) hsome,
      ← Attempt.ofCount_eq_ofResult hs]
  | againFurther h _ he _ ih ih' =>
    intro hs
    obtain ⟨stop, forest, hsome, rfl⟩ := Attempt.matched_eq_ofResult ih
    rw [ih' (hs.extend stop forest), Attempt.ofResult_extend,
      Recognizer.iterate_of_further (remaining_ne_zero h) hsome he, Iteration.atLeast_next,
      Option.map_map, Nat.sub_sub]
    rfl
  | referenceUndefined h =>
    rw [Task.Means, Rule.recognizer, Grammar.follow_of_undefined h]
    rfl
  | referenceTooDeep h hdepth =>
    rw [Task.Means, Rule.recognizer, Nat.sub_eq_zero_of_le hdepth]
    rfl
  | @reference name target s o visited h hlt _ ih =>
    have hbudget : maxDepth - s.depth = maxDepth - (s.depth + 1) + 1 := by omega
    rw [ih, Task.Means, Rule.recognizer, hbudget, Grammar.follow_of_defined h]
    dsimp only
    cases (target.recognizer (grammar.follow tokens (maxDepth - (s.depth + 1)))).run s.cursor <;>
      rfl
  | interpretedMatched _ ih =>
    -- Behind the reserved slot stand the captures of the inner match and no others.
    obtain ⟨stop, forest, hsome, rfl⟩ := Attempt.matched_eq_ofResult ih
    rw [Task.Means, Rule.recognizer, Recognizer.run_interpreted]
    dsimp only at hsome
    rw [hsome]
    simp only [MatchState.extend, Tape.fill_reserve, Option.map_some, Attempt.ofResult,
      CaptureForest.flatten, List.map_cons, List.append_nil, List.length_map,
      CaptureForest.length_flatten]
  | @interpretedFailed rule s s' visited binding _ ih =>
    obtain ⟨hnone, rfl⟩ := Attempt.failed_eq_ofResult ih
    have hs : MatchState.Extends { s with tape := s.tape.reserve } s :=
      ⟨rfl, List.prefix_append _ _⟩
    rw [hs.restore, Task.Means, Rule.recognizer, Recognizer.run_interpreted]
    dsimp only at hnone
    rw [hnone]
    rfl

end Runs

def listSchema : Schema := ⟨"List", []⟩

def parenthesized : Grammar :=
  Grammar.empty.insertNew "list" <| .interpreted (.sequence [
    .literal (.eq "("),
    .repetition (.alternative [.literal (.kind .integer), .reference "list"]) 0 none,
    .literal (.eq ")")]) (.fact listSchema)

def parentheses : List Token :=
  [⟨0, 1, "(", .punctuation, none, "(", .empty⟩, ⟨1, 2, "1", .integer, none, "1", .empty⟩,
    ⟨3, 4, "(", .punctuation, none, "(", .empty⟩, ⟨4, 5, ")", .punctuation, none, ")", .empty⟩,
    ⟨5, 6, ")", .punctuation, none, ")", .empty⟩]

namespace Grammar

variable {s : MatchState} {grammar : Grammar} {tokens : List Token}

theorem attempt_eq_ofResult (grammar : Grammar) (tokens : List Token) (rule : Rule)
    (s : MatchState) :
    (grammar.attempt tokens rule s).val =
      .ofResult s s (grammar.eval tokens (maxDepth - s.depth) rule s.cursor) := by
  obtain ⟨visited, hrun⟩ := runnable grammar tokens s.depth rule s rfl
  exact hrun.means

theorem attempt_start_eq_ofResult (h : start ≤ tokens.length) :
    (grammar.attempt tokens rule (.start tokens start)).val =
      .ofResult (.start tokens start) (.start tokens start)
        (grammar.eval tokens maxDepth rule start) := by
  have hcursor : (MatchState.start tokens start).cursor = start := Nat.min_eq_left h
  rw [attempt_eq_ofResult, hcursor]
  rfl

theorem matchAt_eq_ite (grammar : Grammar) (rule : Rule) (tokens : List Token) (start : Nat) :
    grammar.matchAt rule tokens start =
      if tokens.length < start then none
      else (grammar.eval tokens maxDepth rule start).map fun o =>
        ⟨tokens, ⟨start, o.1⟩, o.2.flatten⟩ := by
  rw [matchAt]
  by_cases h : tokens.length < start
  · rw [if_pos h, if_pos h]
  · rw [if_neg h, if_neg h, attempt_start_eq_ofResult (Nat.le_of_not_lt h)]
    cases grammar.eval tokens maxDepth rule start with
    | none => rfl
    | some o =>
      simp only [Attempt.ofResult, MatchState.extend, Option.map_some, MatchState.start,
        List.nil_append, Tape.captures_map_filled]

theorem eval_of_matchAt (h : grammar.matchAt rule tokens start = some m) :
    start ≤ tokens.length ∧ ∃ stop forest,
      grammar.eval tokens maxDepth rule start = some (stop, forest) ∧
        m = ⟨tokens, ⟨start, stop⟩, forest.flatten⟩ := by
  rw [matchAt_eq_ite] at h
  split at h
  · cases h
  · rename_i hstart
    obtain ⟨⟨stop, forest⟩, heval, rfl⟩ := Option.map_eq_some_iff.1 h
    exact ⟨Nat.le_of_not_lt hstart, stop, forest, heval, rfl⟩

theorem layout_of_matchAt {layout? : Option α} {read : α → Nat × CaptureForest}
    (heval : grammar.eval tokens maxDepth rule start = layout?.map read)
    (h : grammar.matchAt rule tokens start = some m) :
    ∃ layout, layout? = some layout ∧
      m = ⟨tokens, ⟨start, (read layout).1⟩, (read layout).2.flatten⟩ := by
  obtain ⟨_, stop, forest, hforest, rfl⟩ := eval_of_matchAt h
  obtain ⟨layout, hlayout, hread⟩ := Option.map_eq_some_iff.1 (heval.symm.trans hforest)
  exact ⟨layout, hlayout, by rw [hread]⟩

theorem matchAt_of_layout {layout? : Option α} {read : α → Nat × CaptureForest}
    (heval : grammar.eval tokens maxDepth rule start = layout?.map read)
    (hstart : start ≤ tokens.length) (h : layout? = some layout) :
    grammar.matchAt rule tokens start =
      some ⟨tokens, ⟨start, (read layout).1⟩, (read layout).2.flatten⟩ := by
  rw [matchAt_eq_ite, if_neg (Nat.not_lt.2 hstart), heval, h]
  rfl

/-- A rule matches just where a layout is found. -/
theorem matchAt_eq_map_layout {layout? : Option α} {read : α → Nat × CaptureForest}
    (heval : grammar.eval tokens maxDepth rule start = layout?.map read)
    (hend : tokens.length < start → layout? = none) :
    grammar.matchAt rule tokens start =
      layout?.map fun layout => ⟨tokens, ⟨start, (read layout).1⟩, (read layout).2.flatten⟩ := by
  rw [matchAt_eq_ite, heval, Option.map_map]
  split
  · rename_i hlt
    rw [hend hlt]
    rfl
  · rfl

theorem eval_parentheses :
    parenthesized.eval parentheses maxDepth (.reference "list") 0 =
      some (5, .cons (.fact listSchema) ⟨0, 5⟩
        (.cons (.fact listSchema) ⟨2, 4⟩ .nil .nil) .nil) := by
  decide +kernel

/-- A rule matches at a position exactly where its meaning is defined: up to the same place, with
the captures of its meaning in pre-order. -/
theorem matchAt_eq_map_eval (grammar : Grammar) (rule : Rule) (h : start ≤ tokens.length) :
    grammar.matchAt rule tokens start =
      (grammar.eval tokens maxDepth rule start).map fun o =>
        ⟨tokens, ⟨start, o.1⟩, o.2.flatten⟩ := by
  rw [matchAt_eq_ite, if_neg (Nat.not_lt.2 h)]

theorem matchAt_parentheses :
    0 ≤ parentheses.length ∧
      parenthesized.matchAt (.reference "list") parentheses 0 =
        some ⟨parentheses, ⟨0, 5⟩,
          [⟨.fact listSchema, ⟨0, 5⟩, 1⟩, ⟨.fact listSchema, ⟨2, 4⟩, 0⟩]⟩ := by
  refine ⟨by decide, (matchAt_eq_map_eval _ _ (by decide)).trans ?_⟩
  rw [eval_parentheses]
  rfl

/-- Whatever a rule has tried, a failure gives back the state from before. A match adds to the tape
and moves the cursor forward, and has left every reference that it followed. -/
theorem attempt_restores (grammar : Grammar) (rule : Rule) (h : s.cursor ≤ tokens.length) :
    (∀ s', (grammar.attempt tokens rule s).val = .failed s' → s' = s) ∧
      ∀ s', (grammar.attempt tokens rule s).val = .matched s' →
        s'.depth = s.depth ∧ s.cursor ≤ s'.cursor ∧ s'.cursor ≤ tokens.length ∧
          s.tape <+: s'.tape := by
  rw [attempt_eq_ofResult]
  refine ⟨fun s' hfailed => ?_, fun s' hmatched => ?_⟩
  · obtain ⟨_, hs⟩ := Attempt.failed_eq_ofResult hfailed.symm
    exact hs
  · obtain ⟨stop, forest, hsome, rfl⟩ := Attempt.matched_eq_ofResult hmatched.symm
    have hle := Recognizer.le _ hsome
    have hmax := Recognizer.le_max _ hsome
    exact ⟨rfl, hle, by rw [Nat.max_eq_right h] at hmax; exact hmax, List.prefix_append _ _⟩

theorem attempt_restores_parentheses :
    2 ≤ parentheses.length ∧
      (∃ s', (parenthesized.attempt parentheses (.reference "list") ⟨2, [.reserved], 255⟩).val =
          .matched s' ∧ s'.cursor ≤ parentheses.length ∧ [.reserved] <+: s'.tape) ∧
      ∃ s', (parenthesized.attempt parentheses (.reference "list") ⟨0, [.reserved], 255⟩).val =
          .failed s' ∧ s' = ⟨0, [.reserved], 255⟩ := by
  have hinner : parenthesized.eval parentheses 1 (.reference "list") 2 =
      some (4, .cons (.fact listSchema) ⟨2, 4⟩ .nil .nil) := by
    decide +kernel
  have houter : parenthesized.eval parentheses 1 (.reference "list") 0 = none := by
    decide +kernel
  have hmatched := (attempt_eq_ofResult parenthesized parentheses (.reference "list")
    ⟨2, [.reserved], 255⟩).trans (congrArg (Attempt.ofResult _ _) hinner)
  have hfailed := (attempt_eq_ofResult parenthesized parentheses (.reference "list")
    ⟨0, [.reserved], 255⟩).trans (congrArg (Attempt.ofResult _ _) houter)
  obtain ⟨_, _, hcursor, htape⟩ := (attempt_restores _ _ (by decide)).2 _ hmatched
  exact ⟨by decide, ⟨_, hmatched, hcursor, htape⟩, _, hfailed,
    (attempt_restores _ _ (by decide)).1 _ hfailed⟩

end Grammar

end FactGrammar
