namespace FactGrammar

/-- The indices from `start` up to, but not including, `stop`. -/
structure Span where
  start : Nat
  stop : Nat
  deriving DecidableEq, Inhabited, Repr

/-- Where one span lies as seen from another. -/
inductive Span.Location where
  | before
  | after
  /-- Inside the other span, or over the same indices. -/
  | within
  | encompasses
  /-- Sharing indices with the other span while neither contains the other. -/
  | overlaps
  deriving DecidableEq, Inhabited, Repr

namespace Span

/-- The number of indices; a span that ends before it starts has none. -/
def length (span : Span) : Nat :=
  span.stop - span.start

def isEmpty (span : Span) : Bool :=
  span.length == 0

theorem isEmpty_eq_false_iff {span : Span} : span.isEmpty = false ↔ span.start < span.stop := by
  rw [isEmpty, length, beq_eq_false_iff_ne, Nat.sub_ne_zero_iff_lt]

/-- Where a span lies relative to another. Spans that touch are apart. -/
def locationIn (span other : Span) : Location :=
  if span.start ≤ other.start ∧ span.stop ≤ other.start then .before
  else if other.stop ≤ span.start then .after
  else if other.start ≤ span.start ∧ span.stop ≤ other.stop then .within
  else if span.start ≤ other.start ∧ other.stop ≤ span.stop then .encompasses
  else .overlaps

/-- Whether the other span lies in this one from end to end. -/
def contains (span other : Span) : Bool :=
  span.start ≤ other.start && other.stop ≤ span.stop

def display (span : Span) : String :=
  toString span.start ++ ".." ++ toString span.stop

/-- The elements of a list that a span covers. -/
def slice (span : Span) (xs : List α) : List α :=
  (xs.take span.stop).drop span.start

theorem slice_of_getElem? {xs : List α} (h : xs[p]? = some x) :
    (⟨p, p + 1⟩ : Span).slice xs = [x] := by
  obtain ⟨hp, rfl⟩ := List.getElem?_eq_some_iff.1 h
  rw [slice, List.drop_take, Nat.add_sub_cancel_left, List.drop_eq_getElem_cons hp]
  rfl

end Span

end FactGrammar
