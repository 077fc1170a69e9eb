import FactGrammar.Proofs.Academic.Announcement
import FactGrammar.Proofs.Academic.Recognition

namespace FactGrammar.Academic.Thesis

variable {tokens : List Token} {start t d : Nat} {m : Match} {thesis : Thesis}
  {title word suffix : Span}

/-- No token of a span ends a sentence. -/
def Unbroken (tokens : List Token) (span : Span) : Prop :=
  ∀ i token, span.start ≤ i → i < span.stop → tokens[i]? = some token →
    token.text ∉ Speciality.sentenceEnds

theorem Unbroken.part {whole part : Span} (h : Unbroken tokens whole)
    (hstart : whole.start ≤ part.start) (hstop : part.stop ≤ whole.stop) : Unbroken tokens part :=
  fun i token hi hi' => h i token (Nat.le_trans hstart hi) (Nat.lt_of_lt_of_le hi' hstop)

theorem Unbroken.append {first middle last : Nat} (h : Unbroken tokens ⟨first, middle⟩)
    (h' : Unbroken tokens ⟨middle, last⟩) : Unbroken tokens ⟨first, last⟩ := by
  intro i token hi hi'
  rcases Nat.lt_or_ge i middle with hlt | hge
  · exact h i token hi hlt
  · exact h' i token hge hi'

theorem unbroken_token {token : Token} (h : tokens[t]? = some token)
    (htext : token.text ∉ Speciality.sentenceEnds) : Unbroken tokens ⟨t, t + 1⟩ := by
  intro i token' hi hi' htoken'
  cases Nat.le_antisymm (Nat.le_of_lt_succ hi') hi
  cases h.symm.trans htoken'
  exact htext

theorem unbroken_quote (h : afterToken isQuote tokens t = some (t + 1)) :
    Unbroken tokens ⟨t, t + 1⟩ := by
  obtain ⟨⟨token, htoken, hquote⟩, _⟩ := afterToken_eq_some_iff.1 h
  have hapart : ∀ text ∈ quoteMarks, text ∉ Speciality.sentenceEnds := by decide
  exact unbroken_token htoken (hapart _ (List.contains_iff_mem.1 hquote))

/-- The search for a degree stays in its sentence. -/
theorem unbroken_of_firstFrom (h : firstFrom stopsSearch tokens t = some d) :
    Unbroken tokens ⟨t, d⟩ := by
  intro i token hi hi' htoken hends
  have hpassed := (firstFrom_eq_some_iff.1 h).2.2 i token hi hi' htoken
  have hstops : Speciality.endsSentence token = true := List.contains_iff_mem.2 hends
  rw [stopsSearch, hstops, Bool.or_true] at hpassed
  cases hpassed

theorem exists_of_locateDegree {degree : AcademicDegree.Layout}
    (h : locateDegree tokens t = some degree) :
    ∃ d e suffix, firstFrom stopsSearch tokens t = some d ∧ d < e ∧
      tokens[e]? = some suffix ∧ suffix.text = "наук" ∧
        degree = ⟨⟨d, d + 1⟩, ⟨d + 1, e⟩, ⟨e, e + 1⟩⟩ := by
  rw [locateDegree, AcademicDegree.locate_eq] at h
  obtain ⟨word, hword, h⟩ := Option.bind_eq_some_iff.1 h
  obtain ⟨⟨first, e⟩, hspan, rfl⟩ := Option.map_eq_some_iff.1 h
  obtain ⟨rfl, hfirst, hlt⟩ := spanUpTo_eq_some_iff.1 hspan
  obtain ⟨suffix, hsuffix, hsciences⟩ := (firstFrom_eq_some_iff.1 hfirst).2.1
  refine ⟨_, e, suffix, ?_, Nat.lt_of_succ_lt hlt, hsuffix, beq_iff_eq.1 hsciences, rfl⟩
  rw [firstFrom_eq, (Option.filter_eq_some_iff.1 hword).1]
  rfl

theorem closing_of_locate {layout : Layout} (h : locate tokens start = some layout) :
    afterToken isQuote tokens layout.title.stop = some (layout.title.stop + 1) := by
  obtain ⟨⟨kind, title⟩, hhead, he⟩ := Option.bind_eq_some_iff.1 h
  cases he
  obtain ⟨announced, _, h⟩ := Option.bind_eq_some_iff.1 hhead
  obtain ⟨span, hspan, he⟩ := Option.bind_eq_some_iff.1 h
  cases he
  exact (quotedSpan_eq_some_iff.1 hspan).2.2

theorem degree_of_locateTail {tail : Tail} (h : locateTail tokens t = some tail) :
    tail.degree = locateDegree tokens t := by
  obtain ⟨speciality, _, he⟩ := Option.bind_eq_some_iff.1 h
  cases he
  rfl

/-- Between the title and the first word of a degree no sentence ends, nor does one at its last
word. -/
theorem unbroken_of_locate {layout : Layout} {degree : AcademicDegree.Layout}
    (h : locate tokens start = some layout) (hdegree : layout.tail.bind Tail.degree = some degree) :
    Unbroken tokens ⟨layout.title.stop, degree.degree.start⟩ ∧
      Unbroken tokens ⟨degree.suffix.start, degree.suffix.stop⟩ ∧
        layout.title.stop ≤ degree.degree.start ∧ degree.suffix.start ≤ degree.suffix.stop := by
  obtain ⟨tail, htail, hsome⟩ := Option.bind_eq_some_iff.1 hdegree
  rw [degree_of_locateTail ((locateTail_of_locate h).symm.trans htail)] at hsome
  obtain ⟨d, e, suffix, hfirst, hlt, hsuffix, htext, rfl⟩ := exists_of_locateDegree hsome
  have hclosing := unbroken_quote (closing_of_locate h)
  have hsciences : suffix.text ∉ Speciality.sentenceEnds := by
    rw [htext]
    decide
  exact ⟨hclosing.append (unbroken_of_firstFrom hfirst), unbroken_token hsuffix hsciences,
    Nat.le_of_succ_le (firstFrom_eq_some_iff.1 hfirst).1, Nat.le_succ e⟩

/-- What a match captures for the title of a thesis, and for the first and the last word of its
degree. -/
structure DegreeParts (m : Match) (title word suffix : Span) : Prop where
  title : ∃ c ∈ m.captures, c.binding = .field schema.name "title" .raw ∧ c.span = title
  word : ∃ c ∈ m.captures,
    c.binding = .field AcademicDegree.schema.name "degree" .normal ∧ c.span = word
  suffix : ∃ c ∈ m.captures,
    c.binding = .field AcademicDegree.schema.name "suffix" .raw ∧ c.span = suffix

theorem Layout.degreeParts_iff {layout : Layout} {degree : AcademicDegree.Layout} {span : Span}
    (h : layout.tail.bind Tail.degree = some degree) :
    DegreeParts ⟨tokens, span, layout.forest.flatten⟩ title word suffix ↔
      title = layout.title ∧ word = degree.degree ∧ suffix = degree.suffix := by
  have hword : (layout.forest.flatten.filter fun c =>
        decide (c.binding = .field AcademicDegree.schema.name "degree" .normal)).map (·.span) =
          [degree.degree] ∧
      (layout.forest.flatten.filter fun c =>
        decide (c.binding = .field AcademicDegree.schema.name "suffix" .raw)).map (·.span) =
          [degree.suffix] := by
    obtain ⟨kind, title, tail⟩ := layout
    obtain ⟨⟨located, span, code, hyphen, name⟩, rfl, hlocated⟩ := Option.bind_eq_some_iff.1 h
    cases hlocated
    cases code <;> cases hyphen <;> exact ⟨rfl, rfl⟩
  obtain ⟨hword, hsuffix⟩ := hword
  constructor
  · rintro ⟨htitle, hw, hs⟩
    exact ⟨layout.title_iff.1 htitle, (exists_capture_iff hword).1 hw,
      (exists_capture_iff hsuffix).1 hs⟩
  · rintro ⟨htitle, hw, hs⟩
    exact ⟨layout.title_iff.2 htitle, (exists_capture_iff hword).2 hw,
      (exists_capture_iff hsuffix).2 hs⟩

/-- What lies between the title of a thesis and the first word of its degree stays in the sentence.
So a degree is taken across the end of a sentence just where one stands in that word itself or in
the branch behind it. -/
theorem degree_unbroken_iff (hm : grammar.matchAt rule tokens start = some m)
    (hthesis : m.interpret Thesis = .ok thesis) (hdegree : thesis.degree.isSome) :
    (∃ title word suffix, DegreeParts m title word suffix) ∧
      ∀ title word suffix, DegreeParts m title word suffix →
        Unbroken tokens ⟨title.stop, word.start⟩ ∧
          (Unbroken tokens ⟨title.stop, suffix.stop⟩ ↔
            Unbroken tokens ⟨word.start, suffix.start⟩) := by
  obtain ⟨layout, hlayout, rfl⟩ := Grammar.layout_of_matchAt (run_rule 254 start) hm
  cases hthesis.symm.trans (layout.interpret_forest _ (filled_of_locate hlayout))
  rw [Layout.value, Option.isSome_map, Option.isSome_iff_exists] at hdegree
  obtain ⟨degree, hdegree⟩ := hdegree
  refine ⟨⟨_, _, _, (Layout.degreeParts_iff hdegree).2 ⟨rfl, rfl, rfl⟩⟩, ?_⟩
  rintro title word suffix hparts
  obtain ⟨rfl, rfl, rfl⟩ := (Layout.degreeParts_iff hdegree).1 hparts
  obtain ⟨hsearch, hsuffix, hstart, hstop⟩ := unbroken_of_locate hlayout hdegree
  refine ⟨hsearch, fun h => h.part hstart hstop, fun h => ?_⟩
  -- Only the word and the branch of the degree are left to the assumption.
  exact (hsearch.append h).append hsuffix

/-- A thesis whose degree begins in one sentence and ends in the next. -/
def brokenDegree : List Token :=
  tokensOf ["диссертация", "«", "Ряды", "»", "на", "степень", "кандидата", "точных", ".",
    "Институт", "наук", "по", "специальность", "«", "Числа", "»"]

theorem matchAt_brokenDegree :
    ∃ m thesis, grammar.matchAt rule brokenDegree 0 = some m ∧ m.interpret Thesis = .ok thesis ∧
      thesis.degree.isSome ∧ DegreeParts m ⟨2, 3⟩ ⟨6, 7⟩ ⟨10, 11⟩ := by
  have hlayout : locate brokenDegree 0 = some ⟨⟨0, 0⟩, ⟨2, 3⟩,
      some ⟨some ⟨⟨6, 7⟩, ⟨7, 10⟩, ⟨10, 11⟩⟩, ⟨⟨13, 16⟩, none, none, ⟨14, 15⟩⟩⟩⟩ := by
    rfl
  have hm := Grammar.matchAt_of_layout (run_rule 254 0) (Nat.zero_le _) hlayout
  exact ⟨_, _, hm, Layout.interpret_forest _ _ (filled_of_locate hlayout), rfl,
    (Layout.degreeParts_iff rfl).2 ⟨rfl, rfl, rfl⟩⟩

theorem not_unbroken_brokenDegree : ¬Unbroken brokenDegree ⟨6, 10⟩ := fun h =>
  h 8 _ (by decide) (by decide) rfl (by decide)

theorem degree_unbroken_iff_brokenDegree :
    ∃ m thesis, grammar.matchAt rule brokenDegree 0 = some m ∧ m.interpret Thesis = .ok thesis ∧
      thesis.degree.isSome ∧ ∃ title word suffix, DegreeParts m title word suffix ∧
        Unbroken brokenDegree ⟨title.stop, word.start⟩ ∧
          ¬Unbroken brokenDegree ⟨title.stop, suffix.stop⟩ := by
  obtain ⟨m, thesis, hm, hthesis, hdegree, hparts⟩ := matchAt_brokenDegree
  obtain ⟨hsearch, hbroken⟩ := (degree_unbroken_iff hm hthesis hdegree).2 _ _ _ hparts
  exact ⟨m, thesis, hm, hthesis, hdegree, _, _, _, hparts, hsearch,
    fun h => not_unbroken_brokenDegree (hbroken.1 h)⟩

theorem degree_across_sentence_end :
    ¬∀ tokens start m thesis title word suffix, grammar.matchAt rule tokens start = some m →
      m.interpret Thesis = .ok thesis → thesis.degree.isSome →
        DegreeParts m title word suffix → Unbroken tokens ⟨title.stop, suffix.stop⟩ := by
  intro h
  obtain ⟨m, thesis, hm, hthesis, hdegree, hparts⟩ := matchAt_brokenDegree
  have hunbroken := h _ _ m thesis _ _ _ hm hthesis hdegree hparts
  exact not_unbroken_brokenDegree (hunbroken.part (by decide) (by decide))

end FactGrammar.Academic.Thesis
