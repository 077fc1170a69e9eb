import FactGrammar.Span
import Mathlib.Data.List.Chain
import Mathlib.Order.Interval.Finset.Nat

namespace FactGrammar

namespace Span

def indices (span : Span) : Finset Nat :=
  Finset.Ico span.start span.stop

/-- What a location says about the indices of a span and of the one that it is seen from. -/
def Location.Describes : Location → Finset Nat → Finset Nat → Prop
  | before, own, others => ∀ i ∈ own, ∀ j ∈ others, i < j
  | after, own, others => ∀ i ∈ own, ∀ j ∈ others, j < i
  | within, own, others => own ⊆ others
  | encompasses, own, others => others ⊂ own
  | overlaps, own, others => (own ∩ others).Nonempty ∧ ¬ own ⊆ others ∧ ¬ others ⊆ own

variable {a b : Span}

theorem mem_indices : i ∈ a.indices ↔ a.start ≤ i ∧ i < a.stop :=
  Finset.mem_Ico

theorem indices_lt_iff (ha : a.start < a.stop) (hb : b.start < b.stop) :
    (∀ i ∈ a.indices, ∀ j ∈ b.indices, i < j) ↔ a.stop ≤ b.start := by
  simp only [mem_indices]
  constructor
  · intro h
    have hends := h (a.stop - 1) (by omega) b.start (by omega)
    omega
  · intro hle i hi j hj
    omega

theorem contains_iff : a.contains b = true ↔ a.start ≤ b.start ∧ b.stop ≤ a.stop := by
  rw [contains, Bool.and_eq_true, decide_eq_true_iff, decide_eq_true_iff]

theorem indices_subset_iff (ha : a.start < a.stop) :
    a.indices ⊆ b.indices ↔ b.contains a = true := by
  rw [contains_iff]
  exact Finset.Ico_subset_Ico_iff ha

theorem indices_inter_nonempty_iff :
    (a.indices ∩ b.indices).Nonempty ↔
      max a.start b.start < min a.stop b.stop := by
  rw [indices, indices, Finset.Ico_inter_Ico, Finset.nonempty_Ico]

/-- What a location says about the ends of two spans that cover something. -/
def Location.Places (a b : Span) : Location → Prop
  | before => a.stop ≤ b.start
  | after => b.stop ≤ a.start
  | within => b.contains a = true
  | encompasses => a.contains b = true ∧ ¬ b.contains a = true
  | overlaps =>
    max a.start b.start < min a.stop b.stop ∧ ¬ b.contains a = true ∧ ¬ a.contains b = true

/-- The order in which the locations are tried makes no difference. -/
theorem locationIn_eq_iff_places (ha : a.start < a.stop) (hb : b.start < b.stop)
    (location : Location) : a.locationIn b = location ↔ location.Places a b := by
  unfold locationIn
  -- What is answered against what is asked: of the order of the four ends each pair is a case.
  split_ifs <;> cases location <;> simp [Location.Places, contains_iff] <;> omega

theorem places_iff_describes (ha : a.start < a.stop) (hb : b.start < b.stop)
    (location : Location) :
    location.Places a b ↔ location.Describes a.indices b.indices := by
  cases location with
  | before => exact (indices_lt_iff ha hb).symm
  | after =>
    refine (indices_lt_iff hb ha).symm.trans ?_
    exact ⟨fun h i hi j hj => h j hj i hi, fun h j hj i hi => h i hi j hj⟩
  | within => exact (indices_subset_iff ha).symm
  | encompasses =>
    rw [Location.Describes, Finset.ssubset_def, indices_subset_iff ha, indices_subset_iff hb]
    rfl
  | overlaps =>
    rw [Location.Describes, indices_inter_nonempty_iff, indices_subset_iff ha,
      indices_subset_iff hb]
    rfl

theorem isEmpty_iff : a.isEmpty = true ↔ a.stop ≤ a.start := by
  rw [← Bool.not_eq_false, isEmpty_eq_false_iff, Nat.not_lt]

theorem locationIn_eq_before_iff (ha : a.start ≤ a.stop) :
    a.locationIn b = .before ↔ a.stop ≤ b.start := by
  unfold locationIn
  split_ifs <;> simp <;> omega

theorem locationIn_eq_after_iff (ha : a.start ≤ a.stop) :
    a.locationIn b = .after ↔ ¬ a.stop ≤ b.start ∧ b.stop ≤ a.start := by
  unfold locationIn
  split_ifs <;> simp <;> omega

/-- Only two empty spans at one place are each before the other without being after it. -/
theorem before_iff_after (ha : a.start ≤ a.stop) (hb : b.start ≤ b.stop)
    (h : ¬ (a.isEmpty = true ∧ b.isEmpty = true ∧ a.start = b.start)) :
    a.locationIn b = .before ↔ b.locationIn a = .after := by
  rw [isEmpty_iff, isEmpty_iff] at h
  rw [locationIn_eq_before_iff ha, locationIn_eq_after_iff hb]
  omega

/-- Spans that are each before the next are before all that follow. -/
theorem pairwise_of_isChain_before {spans : List Span}
    (hspans : ∀ span ∈ spans, span.start ≤ span.stop)
    (h : spans.IsChain fun a b => a.locationIn b = .before) :
    spans.Pairwise fun a b => a.stop ≤ b.start := by
  induction spans with
  | nil => exact .nil
  | cons a rest ih =>
    obtain ⟨ha, hrest⟩ := List.forall_mem_cons.1 hspans
    obtain ⟨hnext, hchain⟩ := List.isChain_cons.1 h
    refine List.pairwise_cons.2 ⟨?_, ih hrest hchain⟩
    cases rest with
    | nil => exact List.forall_mem_nil _
    | cons b rest =>
      have hab := (locationIn_eq_before_iff ha).1 (hnext b rfl)
      have hb := hrest b List.mem_cons_self
      refine List.forall_mem_cons.2 ⟨hab, fun c hc => ?_⟩
      have hbc := (List.pairwise_cons.1 (ih hrest hchain)).1 c hc
      omega

/-- The location of a span says how the indices that it covers lie to those of the other span. Spans
that are not both empty at one place lie before and after one another, and of spans that are each
before the next every one has its indices before those of all that follow. -/
theorem locations_describe_indices :
    (∀ a b : Span, a.isEmpty = false → b.isEmpty = false → ∀ location : Location,
        a.locationIn b = location ↔ location.Describes a.indices b.indices) ∧
      (∀ a b : Span, a.start ≤ a.stop → b.start ≤ b.stop →
        ¬ (a.isEmpty = true ∧ b.isEmpty = true ∧ a.start = b.start) →
          (a.locationIn b = .before ↔ b.locationIn a = .after)) ∧
      ∀ spans : List Span, (∀ span ∈ spans, span.start ≤ span.stop) →
        spans.IsChain (fun a b => a.locationIn b = .before) →
          (∀ span ∈ spans, span.isEmpty = false) →
            spans.Pairwise fun a b =>
              Disjoint a.indices b.indices ∧ ∀ i ∈ a.indices, ∀ j ∈ b.indices, i < j := by
  refine ⟨?_, fun a b => before_iff_after, ?_⟩
  · intro a b ha hb location
    rw [isEmpty_eq_false_iff] at ha hb
    rw [locationIn_eq_iff_places ha hb, places_iff_describes ha hb]
  · intro spans hspans hchain hne
    refine (pairwise_of_isChain_before hspans hchain).imp_of_mem fun ha hb hle => ?_
    have hlt := (indices_lt_iff (isEmpty_eq_false_iff.1 (hne _ ha))
      (isEmpty_eq_false_iff.1 (hne _ hb))).2 hle
    exact ⟨Finset.disjoint_left.2 fun i hi hi' => Nat.lt_irrefl i (hlt i hi i hi'), hlt⟩

theorem locations_describe_indices_overlap :
    (⟨0, 3⟩ : Span).locationIn ⟨2, 5⟩ = .overlaps ∧
      ((⟨0, 2⟩ : Span).locationIn ⟨2, 2⟩ = .before ↔ (⟨2, 2⟩ : Span).locationIn ⟨0, 2⟩ = .after) ∧
      [(⟨0, 2⟩ : Span), ⟨2, 3⟩, ⟨5, 7⟩].Pairwise fun a b =>
        Disjoint a.indices b.indices ∧ ∀ i ∈ a.indices, ∀ j ∈ b.indices, i < j := by
  obtain ⟨hlocation, hconverse, hspans⟩ := locations_describe_indices
  refine ⟨?_, ?_, ?_⟩
  · refine (hlocation ⟨0, 3⟩ ⟨2, 5⟩ (by decide) (by decide) .overlaps).2 ?_
    exact ⟨⟨2, by decide⟩, by decide, by decide⟩
  · exact hconverse ⟨0, 2⟩ ⟨2, 2⟩ (by decide) (by decide) (by decide)
  · exact hspans _ (by decide) (by decide) (by decide)

end Span

end FactGrammar
