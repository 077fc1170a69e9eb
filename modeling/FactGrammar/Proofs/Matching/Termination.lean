import FactGrammar.Proofs.Matching.Refinement

namespace FactGrammar

variable {grammar : Grammar} {rule : Rule} {tokens : List Token}

theorem Runs.eq_attempt (h : Runs grammar tokens (.attempt rule) s o visited) :
    o = (grammar.attempt tokens rule s).val :=
  h.means.trans (Grammar.attempt_eq_ofResult grammar tokens rule s).symm

/-- A run of the search for matches from a place on, with the matches it yields and the states in
which it attempts rules. -/
inductive Scans (grammar : Grammar) (rule : Rule) (tokens : List Token) :
    Nat → List Match → List MatchState → Prop where
  | done : tokens.length ≤ position → Scans grammar rule tokens position [] []
  | failed : position < tokens.length →
      Runs grammar tokens (.attempt rule) (.start tokens position) (.failed s) visited →
      Scans grammar rule tokens (position + 1) found visited' →
      Scans grammar rule tokens position found (visited ++ visited')
  | inPlace : position < tokens.length →
      Runs grammar tokens (.attempt rule) (.start tokens position) (.matched s) visited →
      Span.isEmpty ⟨position, s.cursor⟩ = true →
      Scans grammar rule tokens (position + 1) found visited' →
      Scans grammar rule tokens position found (visited ++ visited')
  | further : position < tokens.length →
      Runs grammar tokens (.attempt rule) (.start tokens position) (.matched s) visited →
      Span.isEmpty ⟨position, s.cursor⟩ = false →
      Scans grammar rule tokens s.cursor found visited' →
      Scans grammar rule tokens position
        (⟨tokens, ⟨position, s.cursor⟩, s.tape.captures⟩ :: found) (visited ++ visited')

namespace Grammar

/-- After an attempt fewer tokens are left to search. -/
theorem findFrom_scans (grammar : Grammar) (rule : Rule) (tokens : List Token) (position : Nat) :
    ∃ visited, Scans grammar rule tokens position (grammar.findFrom rule tokens position)
      visited := by
  generalize hn : tokens.length - position = n
  induction n using Nat.strongRecOn generalizing position with
  | _ n ih =>
    by_cases hend : tokens.length ≤ position
    · rw [findFrom_of_end hend]
      exact ⟨_, .done hend⟩
    · have hlt := Nat.lt_of_not_le hend
      obtain ⟨visited, hrun⟩ := runnable grammar tokens 0 rule (.start tokens position) rfl
      cases ho : (grammar.attempt tokens rule (.start tokens position)).val with
      | failed s =>
        rw [ho] at hrun
        obtain ⟨visited', hscan⟩ := ih _ (by omega) (position + 1) rfl
        rw [findFrom_of_none hlt (matchAt_of_failed ho)]
        exact ⟨_, .failed hlt hrun hscan⟩
      | matched s =>
        rw [ho] at hrun
        rw [findFrom_of_some hlt (matchAt_of_matched (Nat.le_of_lt hlt) ho)]
        cases hempty : Span.isEmpty ⟨position, s.cursor⟩ with
        | true =>
          obtain ⟨visited', hscan⟩ := ih _ (by omega) (position + 1) rfl
          exact ⟨_, .inPlace hlt hrun hempty hscan⟩
        | false =>
          have hfurther : position < s.cursor := Span.isEmpty_eq_false_iff.1 hempty
          obtain ⟨visited', hscan⟩ := ih _ (by omega) s.cursor rfl
          exact ⟨_, .further hlt hrun hempty hscan⟩

end Grammar

namespace Scans

theorem eq_findFrom (h : Scans grammar rule tokens position found visited) :
    found = grammar.findFrom rule tokens position := by
  induction h with
  | done hend => rw [Grammar.findFrom_of_end hend]
  | failed hlt hrun _ ih =>
    rw [ih, Grammar.findFrom_of_none hlt (Grammar.matchAt_of_failed hrun.eq_attempt.symm)]
  | inPlace hlt hrun hempty _ ih =>
    have hmatch := Grammar.matchAt_of_matched (Nat.le_of_lt hlt) hrun.eq_attempt.symm
    rw [ih, Grammar.findFrom_of_some hlt hmatch, if_pos hempty]
  | further hlt hrun hempty _ ih =>
    have hmatch := Grammar.matchAt_of_matched (Nat.le_of_lt hlt) hrun.eq_attempt.symm
    rw [ih, Grammar.findFrom_of_some hlt hmatch, hempty, if_neg Bool.false_ne_true]

/-- Each match takes a token or more. -/
theorem length_le (h : Scans grammar rule tokens position found visited) :
    found.length ≤ tokens.length - position := by
  induction h with
  | done => exact Nat.zero_le _
  | failed _ _ _ ih | inPlace _ _ _ _ ih => omega
  | @further position s _ _ _ hlt _ hempty _ ih =>
    have hfurther : position < s.cursor := Span.isEmpty_eq_false_iff.1 hempty
    rw [List.length_cons]
    omega

theorem depth_le (h : Scans grammar rule tokens position found visited) :
    ∀ v ∈ visited, v.depth ≤ maxDepth := by
  induction h with
  | done => exact List.forall_mem_nil _
  | failed _ hrun _ ih | inPlace _ hrun _ _ ih | further _ hrun _ _ ih =>
    exact List.forall_mem_append.2 ⟨hrun.depth_le (Nat.zero_le maxDepth), ih⟩

end Scans

namespace Grammar

/-- A rule has a run from every state and a search has one over all tokens. The run is the only one,
and references never nest deeper in it than they may. -/
theorem matching_terminates (grammar : Grammar) (rule : Rule) (tokens : List Token) :
    (∀ s, ∃ visited,
      Runs grammar tokens (.attempt rule) s (grammar.attempt tokens rule s).val visited) ∧
    (∀ s o visited, Runs grammar tokens (.attempt rule) s o visited →
      o = (grammar.attempt tokens rule s).val ∧
        (s.depth ≤ maxDepth → ∀ v ∈ visited, v.depth ≤ maxDepth)) ∧
    (∃ visited, Scans grammar rule tokens 0 (grammar.findAll rule tokens) visited) ∧
    ∀ found visited, Scans grammar rule tokens 0 found visited →
      found = grammar.findAll rule tokens ∧ found.length ≤ tokens.length ∧
        ∀ v ∈ visited, v.depth ≤ maxDepth := by
  refine ⟨fun s => runnable grammar tokens s.depth rule s rfl, fun s o visited hrun => ?_,
    findFrom_scans grammar rule tokens 0, fun found visited hscan => ?_⟩
  · exact ⟨hrun.eq_attempt, hrun.depth_le⟩
  · exact ⟨hscan.eq_findFrom, hscan.length_le, hscan.depth_le⟩

end Grammar

end FactGrammar
