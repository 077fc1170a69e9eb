import FactGrammar.Proofs.Academic.Theses

namespace FactGrammar.Academic.Thesis

variable {tokens : List Token} {p start : Nat} {m : Match} {c : Capture} {sp : Speciality}

/-- A speciality is announced at a place: by a word and a direction, behind which its rule
matches. -/
structure Announces (tokens : List Token) (p : Nat) (sp : Speciality) : Prop where
  introduced : ∃ token, tokens[p]? = some token ∧ token.text = "по"
  direction : ∃ token, tokens[p + 1]? = some token ∧ token.normal ∈ directions
  speciality : ∃ inner, grammar.matchAt (.reference "speciality") tokens (p + 2) = some inner ∧
    inner.interpret Speciality = .ok sp

theorem announces_iff : Announces tokens p sp ↔
    ∃ layout, locateSpeciality tokens p = some layout ∧ layout.value tokens = sp := by
  constructor
  · rintro ⟨⟨first, hfirst, htext⟩, ⟨second, hsecond, hnormal⟩, inner, hinner, hsp⟩
    have hintroduced : afterToken introducesDirection tokens p = some (p + 1) :=
      afterToken_eq_some_iff.2 ⟨⟨first, hfirst, beq_iff_eq.2 htext⟩, rfl⟩
    have hannounced : afterToken isDirection tokens (p + 1) = some (p + 2) :=
      afterToken_eq_some_iff.2 ⟨⟨second, hsecond, List.contains_iff_mem.2 hnormal⟩, rfl⟩
    obtain ⟨layout, hlayout, hvalue⟩ := Speciality.interpret_of_matchAt hinner
    cases hsp.symm.trans hvalue
    refine ⟨layout, ?_, rfl⟩
    simp only [locateSpeciality, hintroduced, hannounced, Option.bind_eq_bind, Option.bind_some,
      hlayout]
  · rintro ⟨layout, h, rfl⟩
    obtain ⟨introduced, hintroduced, h⟩ := Option.bind_eq_some_iff.1 h
    obtain ⟨announced, hannounced, hlayout⟩ := Option.bind_eq_some_iff.1 h
    have hle := (lt_of_afterToken hannounced).2
    obtain ⟨⟨first, hfirst, htext⟩, rfl⟩ := afterToken_eq_some_iff.1 hintroduced
    obtain ⟨⟨second, hsecond, hnormal⟩, rfl⟩ := afterToken_eq_some_iff.1 hannounced
    have hinner := Grammar.matchAt_of_layout (Speciality.eval_reference tokens (p + 2)) hle hlayout
    exact ⟨⟨first, hfirst, beq_iff_eq.1 htext⟩, ⟨second, hsecond, List.contains_iff_mem.1 hnormal⟩,
      _, hinner, layout.interpret_forest _ (Speciality.isStretch_of_locate hlayout)⟩

theorem locateDegree_eq_none (hp : p ≤ tokens.length)
    (h : grammar.matchAt (.reference "academic_degree") tokens
      (afterRun (!stopsSearch ·) tokens p) = none) : locateDegree tokens p = none := by
  cases hdegree : locateDegree tokens p with
  | none => rfl
  | some layout =>
    cases h.symm.trans (Grammar.matchAt_of_layout (AcademicDegree.eval_reference tokens _)
      (afterRun_le hp) hdegree)

theorem locateDegree_eq_some {inner : Match}
    (h : grammar.matchAt (.reference "academic_degree") tokens
      (afterRun (!stopsSearch ·) tokens p) = some inner) :
    ∃ layout, locateDegree tokens p = some layout ∧ inner.span.stop = layout.suffix.stop ∧
      inner.interpret AcademicDegree = .ok (layout.value tokens) := by
  obtain ⟨layout, hlayout, rfl⟩ :=
    Grammar.layout_of_matchAt (AcademicDegree.eval_reference tokens _) h
  exact ⟨layout, hlayout, rfl, layout.interpret_forest _ (AcademicDegree.filled_of_locate hlayout)⟩

theorem exists_capture_iff {captures : List Capture} {binding : Binding} {span place : Span}
    (h : (captures.filter fun c => decide (c.binding = binding)).map (·.span) = [span]) :
    (∃ c ∈ captures, c.binding = binding ∧ c.span = place) ↔ place = span := by
  rw [← List.mem_singleton, ← h, List.mem_map]
  simp only [List.mem_filter, decide_eq_true_eq, and_assoc]

theorem Layout.title_iff (layout : Layout) {place : Span} :
    (∃ c ∈ layout.forest.flatten, c.binding = .field schema.name "title" .raw ∧ c.span = place) ↔
      place = layout.title := by
  refine exists_capture_iff ?_
  obtain ⟨kind, title, tail⟩ := layout
  cases tail with
  | none => rfl
  | some tail =>
    obtain ⟨degree, span, code, hyphen, name⟩ := tail
    cases degree <;> cases code <;> cases hyphen <;> rfl

theorem locateTail_of_announced (hannounced : Announces tokens (afterSpan? p
      ((locateDegree tokens p).map (·.suffix))) sp) :
    ∃ speciality, locateTail tokens p = some ⟨locateDegree tokens p, speciality⟩ ∧
      speciality.value tokens = sp := by
  obtain ⟨speciality, hspeciality, hvalue⟩ := announces_iff.1 hannounced
  refine ⟨speciality, ?_, hvalue⟩
  simp only [locateTail, hspeciality, Option.bind_eq_bind, Option.bind_some]

theorem locateTail_of_not_announced (hnone : ∀ sp, ¬Announces tokens (afterSpan? p
      ((locateDegree tokens p).map (·.suffix))) sp) : locateTail tokens p = none := by
  cases hspeciality : locateSpeciality tokens (afterSpan? p
      ((locateDegree tokens p).map (·.suffix))) with
  | none => simp only [locateTail, hspeciality, Option.bind_eq_bind, Option.bind_none]
  | some speciality => exact absurd (announces_iff.2 ⟨speciality, hspeciality, rfl⟩) (hnone _)

theorem value_of_no_degree {layout : Layout} (h : locate tokens p = some layout)
    (hannounced : Announces tokens (layout.title.stop + 1) sp)
    (hnone : grammar.matchAt (.reference "academic_degree") tokens
      (afterRun (!stopsSearch ·) tokens (layout.title.stop + 1)) = none) :
    (layout.value tokens).speciality = some sp ∧ (layout.value tokens).degree = none := by
  obtain ⟨first, hfirst, _⟩ := hannounced.introduced
  have hlt := (List.getElem?_eq_some_iff.1 hfirst).1
  have hdegree := locateDegree_eq_none (Nat.le_of_lt hlt) hnone
  have hbehind : Announces tokens (afterSpan? (layout.title.stop + 1)
      ((locateDegree tokens (layout.title.stop + 1)).map (·.suffix))) sp := by
    rw [hdegree]
    exact hannounced
  obtain ⟨speciality, hlocated, hvalue⟩ := locateTail_of_announced hbehind
  rw [Layout.value, locateTail_of_locate h, hlocated, hdegree]
  exact ⟨congrArg some hvalue, rfl⟩

theorem value_of_degree {layout : Layout} {inner : Match} {degree : AcademicDegree}
    (h : locate tokens p = some layout)
    (hinner : grammar.matchAt (.reference "academic_degree") tokens
      (afterRun (!stopsSearch ·) tokens (layout.title.stop + 1)) = some inner)
    (hdegree : inner.interpret AcademicDegree = .ok degree) :
    (∀ later, Announces tokens inner.span.stop later →
        (layout.value tokens).speciality = some later ∧
          (layout.value tokens).degree = some degree) ∧
      ((∀ later, ¬Announces tokens inner.span.stop later) →
        (layout.value tokens).speciality = none ∧ (layout.value tokens).degree = none) := by
  obtain ⟨located, hlocated, hstop, hvalue⟩ := locateDegree_eq_some hinner
  cases hdegree.symm.trans hvalue
  -- The search goes on behind the degree, whether or not an announcement stood before it.
  have hbehind : inner.span.stop = afterSpan? (layout.title.stop + 1)
      ((locateDegree tokens (layout.title.stop + 1)).map (·.suffix)) := by
    rw [hlocated, hstop]
    rfl
  rw [hbehind, Layout.value, locateTail_of_locate h]
  constructor
  · intro later hlater
    obtain ⟨speciality, htail, hlabel⟩ := locateTail_of_announced hlater
    rw [htail, hlocated]
    exact ⟨congrArg some hlabel, rfl⟩
  · intro hnone
    rw [locateTail_of_not_announced hnone]
    exact ⟨rfl, rfl⟩

/-- A speciality that is announced right behind the title is that of the thesis, unless the search
for a degree finds one. Then only what is announced behind the degree counts, and without that the
degree does not count either. -/
theorem speciality_of_announced (hm : grammar.matchAt rule tokens start = some m)
    (hc : c ∈ m.captures) (hbinding : c.binding = .field schema.name "title" .raw)
    (hannounced : Announces tokens (c.span.stop + 1) sp) :
    let found := afterRun (!stopsSearch ·) tokens (c.span.stop + 1)
    ∃ thesis, m.interpret Thesis = .ok thesis ∧
      (grammar.matchAt (.reference "academic_degree") tokens found = none →
        thesis.speciality = some sp ∧ thesis.degree = none) ∧
      ∀ inner degree, grammar.matchAt (.reference "academic_degree") tokens found = some inner →
        inner.interpret AcademicDegree = .ok degree →
          (∀ later, Announces tokens inner.span.stop later →
            thesis.speciality = some later ∧ thesis.degree = some degree) ∧
          ((∀ later, ¬Announces tokens inner.span.stop later) →
            thesis.speciality = none ∧ thesis.degree = none) := by
  intro found
  obtain ⟨layout, hlayout, rfl⟩ := Grammar.layout_of_matchAt (run_rule 254 start) hm
  have htitle : c.span = layout.title := layout.title_iff.1 ⟨c, hc, hbinding, rfl⟩
  have hfound : found = afterRun (!stopsSearch ·) tokens (layout.title.stop + 1) := by
    rw [← htitle]
  rw [htitle] at hannounced
  rw [hfound]
  exact ⟨_, layout.interpret_forest _ (filled_of_locate hlayout),
    value_of_no_degree hlayout hannounced, fun inner degree => value_of_degree hlayout⟩

/-- Tokens with given texts, of which one has a normal form that is not its text. -/
def tokensOf (texts : List String) : List Token :=
  texts.map fun text =>
    ⟨0, 0, text, .russian, none, if text = "кандидата" then "кандидат" else text, .empty⟩

/-- A title with a speciality right behind it, and the word for a degree. -/
def announced : List Token :=
  tokensOf ["диссертация", "«", "Ряды", "»", "по", "специальность", "«", "Числа", "»",
    "кандидата", "."]

theorem speciality_of_announced_alone :
    ∃ m c thesis, grammar.matchAt rule announced 0 = some m ∧ c ∈ m.captures ∧
      c.binding = .field schema.name "title" .raw ∧
      Announces announced (c.span.stop + 1) ⟨none, none, "Числа"⟩ ∧
      m.interpret Thesis = .ok thesis ∧ thesis.speciality = some ⟨none, none, "Числа"⟩ := by
  have htitle : (locate announced 0).map Layout.title = some ⟨2, 3⟩ := by decide +kernel
  have hspeciality : (locateSpeciality announced 4).map (·.value announced) =
      some ⟨none, none, "Числа"⟩ := by
    decide +kernel
  have hnone : (AcademicDegree.locate announced
      (afterRun (!stopsSearch ·) announced 4)).isNone = true := by
    decide +kernel
  obtain ⟨layout, hlayout, htitle⟩ := Option.map_eq_some_iff.1 htitle
  have hm := Grammar.matchAt_of_layout (run_rule 254 0) (Nat.zero_le _) hlayout
  obtain ⟨c, hc, hbinding, hspan⟩ := layout.title_iff.2 htitle.symm
  have hannounced : Announces announced (c.span.stop + 1) ⟨none, none, "Числа"⟩ := by
    rw [hspan]
    exact announces_iff.2 (Option.map_eq_some_iff.1 hspeciality)
  obtain ⟨thesis, hthesis, halone, _⟩ := speciality_of_announced hm hc hbinding hannounced
  refine ⟨_, c, thesis, hm, hc, hbinding, hannounced, hthesis, (halone ?_).1⟩
  rw [hspan, Grammar.matchAt_eq_ite, AcademicDegree.eval_reference,
    Option.isNone_iff_eq_none.1 hnone]
  exact ite_self none

/-- A title with a speciality right behind it, and a degree in the same sentence. -/
def lateDegree : List Token :=
  tokensOf ["диссертация", "«", "Ряды", "»", "по", "специальность", "«", "Числа", "»", "на",
    "степень", "кандидата", "точных", "наук"]

theorem announced_speciality_lost :
    ¬∀ tokens start m c sp, grammar.matchAt rule tokens start = some m → c ∈ m.captures →
      c.binding = .field schema.name "title" .raw → Announces tokens (c.span.stop + 1) sp →
        ∃ thesis, m.interpret Thesis = .ok thesis ∧ thesis.speciality = some sp := by
  have hlost : (locate lateDegree 0).map (fun layout =>
      (layout.title, (layout.value lateDegree).speciality)) = some (⟨2, 3⟩, none) := by
    decide +kernel
  have hspeciality : (locateSpeciality lateDegree 4).isSome = true := by decide +kernel
  intro h
  obtain ⟨layout, hlayout, hvalue⟩ := Option.map_eq_some_iff.1 hlost
  obtain ⟨htitle, hnone⟩ := Prod.mk.inj hvalue
  obtain ⟨speciality, hspeciality⟩ := Option.isSome_iff_exists.1 hspeciality
  have hm := Grammar.matchAt_of_layout (run_rule 254 0) (Nat.zero_le _) hlayout
  obtain ⟨c, hc, hbinding, hspan⟩ := layout.title_iff.2 htitle.symm
  have hannounced : Announces lateDegree (c.span.stop + 1) (speciality.value lateDegree) := by
    rw [hspan]
    exact announces_iff.2 ⟨speciality, hspeciality, rfl⟩
  obtain ⟨thesis, hthesis, hsome⟩ := h _ _ _ c _ hm hc hbinding hannounced
  cases hthesis.symm.trans (layout.interpret_forest _ (filled_of_locate hlayout))
  cases hnone.symm.trans hsome

end FactGrammar.Academic.Thesis
