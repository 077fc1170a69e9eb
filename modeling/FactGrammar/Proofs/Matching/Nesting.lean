import FactGrammar.Proofs.Matching.Refinement

namespace FactGrammar

/-- The captures from `first` up to, but not including, `stop` are those at some places, each with
its descendants behind it. -/
inductive Tiles (captures : List Capture) : List Nat → Nat → Nat → Prop where
  | nil (stop : Nat) : Tiles captures [] stop stop
  | cons : captures[first]? = some capture →
      Tiles captures places (first + capture.descendants + 1) stop →
      Tiles captures (first :: places) first stop

/-- A list of captures in pre-order whose spans lie in a span and are nested like the captures. -/
structure WellNested (captures : List Capture) (span : Span) : Prop where
  roots : ∃ places, Tiles captures places 0 captures.length
  inRange : ∀ {i : Nat} {c : Capture}, captures[i]? = some c →
    i + c.descendants < captures.length
  children : ∀ {i : Nat} {c : Capture}, captures[i]? = some c →
    ∃ places, Tiles captures places (i + 1) (i + c.descendants + 1)
  ordered : ∀ {i : Nat} {c : Capture}, captures[i]? = some c → c.span.start ≤ c.span.stop
  within : ∀ {i : Nat} {c : Capture}, captures[i]? = some c →
    span.start ≤ c.span.start ∧ c.span.stop ≤ span.stop
  nested : ∀ {i j : Nat} {c d : Capture}, captures[i]? = some c → captures[j]? = some d →
    i < j → j ≤ i + c.descendants → c.span.start ≤ d.span.start ∧ d.span.stop ≤ c.span.stop
  /-- A capture ends before a later one starts that is not inside it, such as its next sibling. -/
  apart : ∀ {i j : Nat} {c d : Capture}, captures[i]? = some c → captures[j]? = some d →
    i + c.descendants < j → c.span.stop ≤ d.span.start

namespace CaptureForest

theorem StandsAt.tiles (h : StandsAt captures place f) :
    ∃ places, Tiles captures places place (place + f.size) := by
  induction f generalizing place with
  | nil => exact ⟨[], .nil _⟩
  | cons binding span inside rest _ ih =>
    obtain ⟨hplace, _, hrest⟩ := h
    obtain ⟨places, htiles⟩ := ih hrest
    have hsize : place + 1 + inside.size + rest.size =
        place + (cons binding span inside rest).size := by
      rw [size]
      omega
    rw [hsize, Nat.add_right_comm] at htiles
    exact ⟨place :: places, .cons hplace htiles⟩

/-- Every capture of a forest is followed by the forest of those inside it. -/
theorem StandsAt.subtree (h : StandsAt captures place f) (hf : Between start stop f)
    (hi : captures[i]? = some c) (hle : place ≤ i) (hlt : i < place + f.size) :
    start ≤ c.span.start ∧ c.span.stop ≤ stop ∧
      ∃ inside, c.descendants = inside.size ∧ i + inside.size < place + f.size ∧
        StandsAt captures (i + 1) inside ∧ Between c.span.start c.span.stop inside := by
  induction f generalizing place start stop with
  | nil => exact absurd hlt (Nat.not_lt.2 hle)
  | cons binding span inside rest ihInside ihRest =>
    obtain ⟨hplace, hinside, hrest⟩ := h
    obtain ⟨hstart, hfinside, hfrest⟩ := hf
    have hspan := hfinside.le
    have hstop := hfrest.le
    rw [size] at hlt ⊢
    -- The place is that of the first capture, or inside it, or behind it.
    by_cases heq : i = place
    · subst heq
      rw [hplace] at hi
      cases hi
      exact ⟨hstart, hstop, inside, rfl, by omega, hinside, hfinside⟩
    · by_cases hin : i < place + 1 + inside.size
      · obtain ⟨hs, hs', g, hsize, hlast, hg, hfg⟩ :=
          ihInside hinside hfinside (by omega) hin
        exact ⟨by omega, by omega, g, hsize, by omega, hg, hfg⟩
      · obtain ⟨hs, hs', g, hsize, hlast, hg, hfg⟩ :=
          ihRest hrest hfrest (by omega) (by omega)
        exact ⟨by omega, by omega, g, hsize, by omega, hg, hfg⟩

/-- A capture that is not inside an earlier one lies behind it among the tokens as well. -/
theorem StandsAt.apart (h : StandsAt captures place f) (hf : Between start stop f)
    (hi : captures[i]? = some c) (hj : captures[j]? = some d) (hle : place ≤ i)
    (hij : i + c.descendants < j) (hlt : j < place + f.size) : c.span.stop ≤ d.span.start := by
  induction f generalizing place start stop with
  | nil => exact absurd hlt (by rw [size]; omega)
  | cons binding span inside rest ihInside ihRest =>
    obtain ⟨hplace, hinside, hrest⟩ := h
    obtain ⟨_, hfinside, hfrest⟩ := hf
    rw [size] at hlt
    by_cases heq : i = place
    · subst heq
      rw [hplace] at hi
      cases hi
      have hij : i + inside.size < j := hij
      exact (hrest.subtree hfrest hj (by omega) (by omega)).1
    · by_cases hin : i < place + 1 + inside.size
      · by_cases hjin : j < place + 1 + inside.size
        · exact ihInside hinside hfinside (by omega) hjin
        · have hc := (hinside.subtree hfinside hi (by omega) hin).2.1
          have hd := (hrest.subtree hfrest hj (by omega) (by omega)).1
          exact Nat.le_trans hc hd
      · exact ihRest hrest hfrest (by omega) (by omega)

theorem wellNested_flatten (h : Between start stop f) : WellNested f.flatten ⟨start, stop⟩ := by
  have hstands : StandsAt f.flatten 0 f := by
    simpa only [List.nil_append, List.append_nil, List.length_nil] using standsAt_flatten [] [] f
  have hlt {i : Nat} {c : Capture} (hi : f.flatten[i]? = some c) : i < 0 + f.size := by
    obtain ⟨hi, _⟩ := List.getElem?_eq_some_iff.1 hi
    rwa [length_flatten, ← Nat.zero_add f.size] at hi
  have hsubtree {i : Nat} {c : Capture} (hi : f.flatten[i]? = some c) :=
    hstands.subtree h hi (Nat.zero_le i) (hlt hi)
  refine ⟨?_, ?_, ?_, ?_, ?_, ?_, ?_⟩
  · obtain ⟨places, htiles⟩ := hstands.tiles
    rw [Nat.zero_add, ← length_flatten] at htiles
    exact ⟨places, htiles⟩
  · intro i c hi
    obtain ⟨_, _, inside, hsize, hlast, _⟩ := hsubtree hi
    rw [length_flatten, hsize]
    omega
  · intro i c hi
    obtain ⟨_, _, inside, hsize, _, hinside, _⟩ := hsubtree hi
    obtain ⟨places, htiles⟩ := hinside.tiles
    rw [Nat.add_right_comm, ← hsize] at htiles
    exact ⟨places, htiles⟩
  · intro i c hi
    obtain ⟨_, _, inside, _, _, _, hbetween⟩ := hsubtree hi
    exact hbetween.le
  · intro i c hi
    exact ⟨(hsubtree hi).1, (hsubtree hi).2.1⟩
  · intro i j c d hi hj hij hlast
    obtain ⟨_, _, inside, hsize, _, hinside, hbetween⟩ := hsubtree hi
    obtain ⟨hs, hs', _⟩ := hinside.subtree hbetween hj hij (by omega)
    exact ⟨hs, hs'⟩
  · intro i j c d hi hj hij
    exact hstands.apart h hi hj (Nat.zero_le i) hij (hlt hj)

end CaptureForest

namespace Grammar

variable {grammar : Grammar} {rule : Rule} {tokens : List Token}

/-- A match lies in the tokens, its captures are nested in it, and all that was reserved for them
has been filled. -/
theorem matchAt_wellNested (h : grammar.matchAt rule tokens start = some m) :
    m.source = tokens ∧ m.span.start ≤ m.span.stop ∧ m.span.stop ≤ tokens.length ∧
      WellNested m.captures m.span ∧ (∀ c ∈ m.captures, c.span.stop ≤ tokens.length) ∧
      ∃ s, (grammar.attempt tokens rule (.start tokens start)).val = .matched s ∧
        s.tape = m.captures.map .filled := by
  obtain ⟨hstart, stop, forest, heval, rfl⟩ := eval_of_matchAt h
  have hnested := CaptureForest.wellNested_flatten (Recognizer.between _ heval)
  have hle := Recognizer.le _ heval
  have hmax := Recognizer.le_max _ heval
  rw [Nat.max_eq_right hstart] at hmax
  refine ⟨rfl, hle, hmax, hnested, fun c hc => ?_, ?_⟩
  · obtain ⟨i, hi⟩ := List.mem_iff_getElem?.1 hc
    exact Nat.le_trans (hnested.within hi).2 hmax
  · rw [attempt_start_eq_ofResult hstart, heval]
    exact ⟨_, rfl, rfl⟩

theorem matchAt_wellNested_parentheses :
    parenthesized.matchAt (.reference "list") parentheses 0 =
        some ⟨parentheses, ⟨0, 5⟩,
          [⟨.fact listSchema, ⟨0, 5⟩, 1⟩, ⟨.fact listSchema, ⟨2, 4⟩, 0⟩]⟩ ∧
      WellNested [⟨.fact listSchema, ⟨0, 5⟩, 1⟩, ⟨.fact listSchema, ⟨2, 4⟩, 0⟩] ⟨0, 5⟩ := by
  have hmatch : parenthesized.matchAt (.reference "list") parentheses 0 =
      some ⟨parentheses, ⟨0, 5⟩,
        [⟨.fact listSchema, ⟨0, 5⟩, 1⟩, ⟨.fact listSchema, ⟨2, 4⟩, 0⟩]⟩ := by
    rw [matchAt_eq_ite, if_neg (by decide), eval_parentheses]
    rfl
  obtain ⟨_, _, _, hnested, _⟩ := matchAt_wellNested hmatch
  exact ⟨hmatch, hnested⟩

end Grammar

end FactGrammar
