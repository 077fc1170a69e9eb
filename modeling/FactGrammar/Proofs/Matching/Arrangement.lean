import FactGrammar.Proofs.Matching.Search

namespace FactGrammar

/-- The parts lie in a span one after the other. -/
structure Span.Arranged (whole : Span) (parts : List Span) : Prop where
  inside : ∀ part ∈ parts, whole.start ≤ part.start ∧ part.stop ≤ whole.stop
  apart : parts.Pairwise fun part next => part.stop ≤ next.start

namespace Span.Arranged

variable {whole wider : Span} {parts parts' : List Span} {first middle last : Nat}

theorem sublist (h : whole.Arranged parts) (hsub : parts'.Sublist parts) :
    whole.Arranged parts' where
  inside part hpart := h.inside part (hsub.subset hpart)
  apart := h.apart.sublist hsub

theorem widen (h : whole.Arranged parts) (hstart : wider.start ≤ whole.start)
    (hstop : whole.stop ≤ wider.stop) : wider.Arranged parts where
  inside part hpart :=
    ⟨Nat.le_trans hstart (h.inside part hpart).1, Nat.le_trans (h.inside part hpart).2 hstop⟩
  apart := h.apart

theorem append (h : (⟨first, middle⟩ : Span).Arranged parts)
    (h' : (⟨middle, last⟩ : Span).Arranged parts') (hfirst : first ≤ middle)
    (hlast : middle ≤ last) : (⟨first, last⟩ : Span).Arranged (parts ++ parts') where
  inside := List.forall_mem_append.2
    ⟨(h.widen (Nat.le_refl first) hlast).inside, (h'.widen hfirst (Nat.le_refl last)).inside⟩
  apart := List.pairwise_append.2 ⟨h.apart, h'.apart, fun part hpart next hnext =>
    Nat.le_trans (h.inside part hpart).2 (h'.inside next hnext).1⟩

end Span.Arranged

namespace CaptureForest

variable {f : CaptureForest} {chosen : Binding → Bool} {span : Span}

/-- The spans of the outermost captures that have a chosen binding. -/
def spansOf (chosen : Binding → Bool) : CaptureForest → List Span
  | nil => []
  | cons binding span inside rest =>
    (if chosen binding then [span] else inside.spansOf chosen) ++ rest.spansOf chosen

theorem Between.arranged (h : f.Between start stop) (chosen : Binding → Bool) :
    (⟨start, stop⟩ : Span).Arranged (f.spansOf chosen) := by
  induction f generalizing start stop with
  | nil => exact ⟨List.forall_mem_nil _, .nil⟩
  | cons binding span inside rest ihInside ihRest =>
    obtain ⟨hstart, hinside, hrest⟩ := h
    have hspan := hinside.le
    have hfirst : (⟨start, span.stop⟩ : Span).Arranged
        (if chosen binding then [span] else inside.spansOf chosen) := by
      split
      · exact ⟨List.forall_mem_singleton.2 ⟨hstart, Nat.le_refl _⟩, List.pairwise_singleton _ _⟩
      · exact (ihInside hinside).widen hstart (Nat.le_refl _)
    exact hfirst.append (ihRest hrest) (Nat.le_trans hstart hspan) hrest.le

theorem exists_capture_of_mem_spansOf (h : span ∈ f.spansOf chosen) :
    ∃ c ∈ f.flatten, chosen c.binding = true ∧ c.span = span := by
  induction f with
  | nil => cases h
  | cons binding whole inside rest ihInside ihRest =>
    rw [flatten]
    rcases List.mem_append.1 h with h | h
    · split at h
      · rename_i hchosen
        cases List.mem_singleton.1 h
        exact ⟨_, List.mem_cons_self, hchosen, rfl⟩
      · obtain ⟨c, hc, hspan⟩ := ihInside h
        exact ⟨c, List.mem_cons_of_mem _ (List.mem_append_left _ hc), hspan⟩
    · obtain ⟨c, hc, hspan⟩ := ihRest h
      exact ⟨c, List.mem_cons_of_mem _ (List.mem_append_right _ hc), hspan⟩

end CaptureForest

variable {grammar : Grammar} {rule : Rule} {tokens : List Token}

theorem LeftmostFrom.pairwise_apart (h : LeftmostFrom grammar rule tokens first found) :
    found.Pairwise fun m m' => m.span.stop ≤ m'.span.start := by
  induction found generalizing first with
  | nil => exact .nil
  | cons m rest ih => exact List.pairwise_cons.2 ⟨h.of_cons.first_le, ih h.of_cons⟩

end FactGrammar
