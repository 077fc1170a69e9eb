import FactGrammar.Proofs.Matching.Refinement
import Mathlib.Data.List.Chain

namespace FactGrammar

variable {grammar : Grammar} {rule : Rule} {tokens : List Token}

/-- Matches of a rule from a place on, from left to right, that do not overlap and leave out no
match that begins outside them. -/
structure LeftmostFrom (grammar : Grammar) (rule : Rule) (tokens : List Token) (first : Nat)
    (found : List Match) : Prop where
  isMatch : ∀ m ∈ found, grammar.matchAt rule tokens m.span.start = some m
  nonempty : ∀ m ∈ found, m.span.start < m.span.stop
  stop_le : ∀ m ∈ found, m.span.stop ≤ tokens.length
  first_le : ∀ m ∈ found, first ≤ m.span.start
  increasing : found.Pairwise fun m m' => m.span.start < m'.span.start
  apart : found.IsChain fun m m' => m.span.stop ≤ m'.span.start
  /-- A match that begins outside those found is empty. -/
  complete : ∀ p, first ≤ p → p < tokens.length →
    (∀ m ∈ found, ¬ (m.span.start ≤ p ∧ p < m.span.stop)) →
    ∀ m, grammar.matchAt rule tokens p = some m → m.span.isEmpty = true

theorem Grammar.stop_le_of_matchAt (h : grammar.matchAt rule tokens start = some m) :
    m.span.stop ≤ tokens.length := by
  obtain ⟨hstart, stop, forest, heval, rfl⟩ := eval_of_matchAt h
  exact Recognizer.stop_le_length _ hstart heval

namespace LeftmostFrom

theorem nil (h : tokens.length ≤ first) : LeftmostFrom grammar rule tokens first [] where
  isMatch := List.forall_mem_nil _
  nonempty := List.forall_mem_nil _
  stop_le := List.forall_mem_nil _
  first_le := List.forall_mem_nil _
  increasing := .nil
  apart := .nil
  complete p hp hlt := by omega

/-- A place where nothing or only an empty match begins can be passed over. -/
theorem skip (hempty : ∀ m, grammar.matchAt rule tokens first = some m → m.span.isEmpty = true)
    (h : LeftmostFrom grammar rule tokens (first + 1) found) :
    LeftmostFrom grammar rule tokens first found where
  isMatch := h.isMatch
  nonempty := h.nonempty
  stop_le := h.stop_le
  first_le m hm := Nat.le_of_succ_le (h.first_le m hm)
  increasing := h.increasing
  apart := h.apart
  complete p hp hlt hout := by
    rcases Nat.eq_or_lt_of_le hp with rfl | hp
    · exact hempty
    · exact h.complete p hp hlt hout

theorem cons (hm : grammar.matchAt rule tokens first = some m) (hne : m.span.isEmpty = false)
    (h : LeftmostFrom grammar rule tokens m.span.stop found) :
    LeftmostFrom grammar rule tokens first (m :: found) := by
  have hstart := Grammar.matchAt_start hm
  have hlt := Span.isEmpty_eq_false_iff.1 hne
  have hm' : grammar.matchAt rule tokens m.span.start = some m := hstart ▸ hm
  refine ⟨?_, ?_, ?_, ?_, ?_, ?_, ?_⟩
  · exact List.forall_mem_cons.2 ⟨hm', h.isMatch⟩
  · exact List.forall_mem_cons.2 ⟨hlt, h.nonempty⟩
  · exact List.forall_mem_cons.2 ⟨Grammar.stop_le_of_matchAt hm, h.stop_le⟩
  · refine List.forall_mem_cons.2 ⟨Nat.le_of_eq hstart.symm, fun m' hm' => ?_⟩
    have := h.first_le m' hm'
    omega
  · exact List.pairwise_cons.2 ⟨fun m' hm' => Nat.lt_of_lt_of_le hlt (h.first_le m' hm'),
      h.increasing⟩
  · exact List.isChain_cons.2 ⟨fun m' hm' => h.first_le m' (List.mem_of_mem_head? hm'), h.apart⟩
  · intro p hp hplt hout
    obtain ⟨hpm, hpfound⟩ := List.forall_mem_cons.1 hout
    exact h.complete p (by omega) hplt hpfound

theorem eq_nil (h : LeftmostFrom grammar rule tokens first found) (hend : tokens.length ≤ first) :
    found = [] := by
  refine List.eq_nil_iff_forall_not_mem.2 fun m hm => ?_
  have := h.first_le m hm
  have := h.nonempty m hm
  have := h.stop_le m hm
  omega

theorem of_skip (h : LeftmostFrom grammar rule tokens first found)
    (hempty : ∀ m, grammar.matchAt rule tokens first = some m → m.span.isEmpty = true) :
    LeftmostFrom grammar rule tokens (first + 1) found where
  isMatch := h.isMatch
  nonempty := h.nonempty
  stop_le := h.stop_le
  first_le m hm := by
    refine Nat.lt_of_le_of_ne (h.first_le m hm) fun heq => ?_
    have hm' := hempty m (heq ▸ h.isMatch m hm)
    rw [Span.isEmpty_eq_false_iff.2 (h.nonempty m hm)] at hm'
    cases hm'
  increasing := h.increasing
  apart := h.apart
  complete p hp := h.complete p (Nat.le_of_succ_le hp)

/-- What begins at the first place is itself among the matches, and it stands before all others. -/
theorem eq_cons (h : LeftmostFrom grammar rule tokens first found) (hlt : first < tokens.length)
    (hm : grammar.matchAt rule tokens first = some m) (hne : m.span.isEmpty = false) :
    ∃ rest, found = m :: rest := by
  have hmem : m ∈ found := by
    by_contra hnot
    refine Bool.false_ne_true (hne.symm.trans (h.complete first (Nat.le_refl _) hlt ?_ m hm))
    rintro m' hm' ⟨hle, _⟩
    have heq : m'.span.start = first := Nat.le_antisymm hle (h.first_le m' hm')
    have hsome := h.isMatch m' hm'
    rw [heq, hm] at hsome
    cases hsome
    exact hnot hm'
  cases found with
  | nil => cases hmem
  | cons a rest =>
    rcases List.mem_cons.1 hmem with rfl | hmem
    · exact ⟨rest, rfl⟩
    · have hle := h.first_le a List.mem_cons_self
      have hstart := Grammar.matchAt_start hm
      have := (List.pairwise_cons.1 h.increasing).1 m hmem
      omega

theorem of_cons (h : LeftmostFrom grammar rule tokens first (m :: rest)) :
    LeftmostFrom grammar rule tokens m.span.stop rest := by
  obtain ⟨hstart, hincreasing⟩ := List.pairwise_cons.1 h.increasing
  obtain ⟨hnext, hapart⟩ := List.isChain_cons.1 h.apart
  obtain ⟨hfirst, hle⟩ := List.forall_mem_cons.1 h.first_le
  have hafter : ∀ m' ∈ rest, m.span.stop ≤ m'.span.start := by
    cases rest with
    | nil => exact List.forall_mem_nil _
    | cons b rest =>
      -- The next match begins behind this one, and all others behind the next.
      have hb := hnext b rfl
      refine List.forall_mem_cons.2 ⟨hb, fun m' hm' => ?_⟩
      exact Nat.le_trans hb (Nat.le_of_lt ((List.pairwise_cons.1 hincreasing).1 m' hm'))
  have hne := h.nonempty m List.mem_cons_self
  exact {
    isMatch := (List.forall_mem_cons.1 h.isMatch).2
    nonempty := (List.forall_mem_cons.1 h.nonempty).2
    stop_le := (List.forall_mem_cons.1 h.stop_le).2
    first_le := hafter
    increasing := hincreasing
    apart := hapart
    complete := fun p hp hlt hout =>
      h.complete p (by omega) hlt
        (List.forall_mem_cons.2 ⟨fun hin => Nat.not_lt.2 hp hin.2, hout⟩) }

theorem eq_findFrom (h : LeftmostFrom grammar rule tokens first found) :
    found = grammar.findFrom rule tokens first := by
  fun_induction Grammar.findFrom grammar rule tokens first generalizing found with
  | case1 first hend => exact h.eq_nil hend
  | case2 first _ hnone ih =>
    refine ih (h.of_skip fun m hm => ?_)
    rw [hnone] at hm
    cases hm
  | case3 first _ m hm hempty ih =>
    refine ih (h.of_skip fun m' hm' => ?_)
    rw [hm] at hm'
    cases hm'
    exact hempty
  | case4 first hend m hm hne ih =>
    obtain ⟨rest, rfl⟩ := h.eq_cons (Nat.lt_of_not_le hend) hm (eq_false_of_ne_true hne)
    rw [ih h.of_cons]

end LeftmostFrom

namespace Grammar

theorem findFrom_leftmost (grammar : Grammar) (rule : Rule) (tokens : List Token) (first : Nat) :
    LeftmostFrom grammar rule tokens first (grammar.findFrom rule tokens first) := by
  fun_induction Grammar.findFrom grammar rule tokens first with
  | case1 first hend => exact .nil hend
  | case2 first _ hnone ih =>
    refine ih.skip fun m hm => ?_
    rw [hnone] at hm
    cases hm
  | case3 first _ m hm hempty ih =>
    refine ih.skip fun m' hm' => ?_
    rw [hm] at hm'
    cases hm'
    exact hempty
  | case4 first _ m hm hne ih => exact ih.cons hm (eq_false_of_ne_true hne)

/-- Places that no match begins at are passed over. -/
theorem findFrom_of_none_before (hle : first ≤ position) (hend : position ≤ tokens.length)
    (hnone : ∀ p, first ≤ p → p < position → grammar.matchAt rule tokens p = none) :
    grammar.findFrom rule tokens first = grammar.findFrom rule tokens position := by
  induction position, hle using Nat.le_induction with
  | base => rfl
  | succ n hn ih =>
    have hbefore : grammar.findFrom rule tokens first = grammar.findFrom rule tokens n := by
      apply ih (Nat.le_of_succ_le hend)
      intro p hp hlt
      exact hnone p hp (Nat.lt_succ_of_lt hlt)
    rw [hbefore, findFrom_of_none hend (hnone n hn (Nat.lt_succ_self n))]

theorem findAll_congr {grammar' : Grammar} {rule' : Rule}
    (h : ∀ start, grammar'.matchAt rule' tokens start = grammar.matchAt rule tokens start) :
    grammar'.findAll rule' tokens = grammar.findAll rule tokens := by
  have hall := findFrom_leftmost grammar rule tokens 0
  have hall' : LeftmostFrom grammar' rule' tokens 0 (grammar.findFrom rule tokens 0) := {
    hall with
    isMatch := fun m hm => (h _).trans (hall.isMatch m hm)
    complete := fun p hp hlt hout m hm => hall.complete p hp hlt hout m ((h p).symm.trans hm) }
  exact hall'.eq_findFrom.symm

/-- The matches that a search finds are the leftmost ones that do not overlap, and no other list of
matches is. -/
theorem leftmostFrom_iff_findAll (grammar : Grammar) (rule : Rule) (tokens : List Token)
    (found : List Match) :
    LeftmostFrom grammar rule tokens 0 found ↔ found = grammar.findAll rule tokens := by
  refine ⟨fun h => h.eq_findFrom, ?_⟩
  rintro rfl
  exact findFrom_leftmost grammar rule tokens 0

end Grammar

end FactGrammar
