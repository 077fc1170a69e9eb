import FactGrammar.Matching.Tape

namespace FactGrammar

/-- Captures side by side: the first one, those inside it, and those after it. -/
inductive CaptureForest where
  | nil
  | cons (binding : Binding) (span : Span) (inside rest : CaptureForest)
  deriving DecidableEq

namespace CaptureForest

def append : CaptureForest → CaptureForest → CaptureForest
  | nil, g => g
  | cons binding span inside rest, g => cons binding span inside (rest.append g)

instance : Append CaptureForest := ⟨append⟩

def ofSpan? (binding : Binding) : Option Span → CaptureForest
  | some span => cons binding span nil nil
  | none => nil

def size : CaptureForest → Nat
  | nil => 0
  | cons _ _ inside rest => inside.size + 1 + rest.size

def flatten : CaptureForest → List Capture
  | nil => []
  | cons binding span inside rest =>
    ⟨binding, span, inside.size⟩ :: (inside.flatten ++ rest.flatten)

/-- The captures lie one after the other between two places, and so do those inside each. -/
def Between (start stop : Nat) : CaptureForest → Prop
  | nil => start ≤ stop
  | cons _ span inside rest =>
    start ≤ span.start ∧ inside.Between span.start span.stop ∧ rest.Between span.stop stop

/-- The captures stand in a list from a place on, each followed by those inside it. -/
def StandsAt (captures : List Capture) (place : Nat) : CaptureForest → Prop
  | nil => True
  | cons binding span inside rest =>
    captures[place]? = some ⟨binding, span, inside.size⟩ ∧
      inside.StandsAt captures (place + 1) ∧ rest.StandsAt captures (place + 1 + inside.size)

@[simp] theorem cons_append (binding : Binding) (span : Span) (inside rest f : CaptureForest) :
    cons binding span inside rest ++ f = cons binding span inside (rest ++ f) := rfl

@[simp] theorem nil_append (f : CaptureForest) : nil ++ f = f := rfl

@[simp] theorem append_nil (f : CaptureForest) : f ++ nil = f := by
  induction f with
  | nil => rfl
  | cons binding span inside rest _ ih => rw [cons_append, ih]

theorem append_assoc (f g h : CaptureForest) : f ++ g ++ h = f ++ (g ++ h) := by
  induction f with
  | nil => rfl
  | cons binding span inside rest _ ih =>
    rw [cons_append, cons_append, cons_append, ih]

@[simp] theorem length_flatten (f : CaptureForest) : f.flatten.length = f.size := by
  induction f with
  | nil => rfl
  | cons binding span inside rest ihInside ihRest =>
    simp only [flatten, size, List.length_cons, List.length_append, ihInside, ihRest]
    omega

@[simp] theorem flatten_append (f g : CaptureForest) :
    (f ++ g).flatten = f.flatten ++ g.flatten := by
  induction f with
  | nil => rfl
  | cons binding span inside rest _ ih =>
    simp only [cons_append, flatten, ih, List.cons_append, List.append_assoc]

/-- The flat list of captures tells which captures are inside which. -/
theorem flatten_inj {f g : CaptureForest} (h : f.flatten = g.flatten) : f = g := by
  induction f generalizing g with
  | nil =>
    cases g with
    | nil => rfl
    | cons binding span inside rest => cases h
  | cons binding span inside rest ihInside ihRest =>
    cases g with
    | nil => cases h
    | cons binding' span' inside' rest' =>
      obtain ⟨hcapture, hbehind⟩ := List.cons.inj h
      obtain ⟨hbinding, hspan, hsize⟩ := Capture.mk.inj hcapture
      have hlength : inside.flatten.length = inside'.flatten.length := by
        rw [length_flatten, length_flatten, hsize]
      obtain ⟨hinside, hrest⟩ := List.append_inj hbehind hlength
      rw [hbinding, hspan, ihInside hinside, ihRest hrest]

theorem Between.le (h : Between start stop f) : start ≤ stop := by
  induction f generalizing start stop with
  | nil => exact h
  | cons binding span inside rest ihInside ihRest =>
    obtain ⟨hstart, hinside, hrest⟩ := h
    exact Nat.le_trans hstart (Nat.le_trans (ihInside hinside) (ihRest hrest))

theorem Between.append (hf : Between start middle f) (hg : Between middle stop g) :
    Between start stop (f ++ g) := by
  induction f generalizing start with
  | nil =>
    cases g with
    | nil => exact Nat.le_trans hf hg
    | cons binding span inside rest => exact ⟨Nat.le_trans hf hg.1, hg.2⟩
  | cons binding span inside rest _ ih =>
    obtain ⟨hstart, hinside, hrest⟩ := hf
    exact ⟨hstart, hinside, ih hrest⟩

theorem standsAt_flatten (xs ys : List Capture) (f : CaptureForest) :
    f.StandsAt (xs ++ (f.flatten ++ ys)) xs.length := by
  induction f generalizing xs ys with
  | nil => trivial
  | cons binding span inside rest ihInside ihRest =>
    -- The capture stands before those inside it, and both before the rest.
    let c : Capture := ⟨binding, span, inside.size⟩
    have hinside := ihInside (xs ++ [c]) (rest.flatten ++ ys)
    have hrest := ihRest (xs ++ c :: inside.flatten) ys
    simp only [List.append_assoc, List.cons_append, List.nil_append, List.length_append,
      List.length_cons, List.length_nil, length_flatten, ← Nat.add_assoc] at hinside hrest
    rw [Nat.add_right_comm] at hrest
    refine ⟨?_, ?_, ?_⟩
    · simp [flatten]
    · simpa only [flatten, List.cons_append, List.append_assoc] using hinside
    · simpa only [flatten, List.cons_append, List.append_assoc] using hrest

end CaptureForest

end FactGrammar
