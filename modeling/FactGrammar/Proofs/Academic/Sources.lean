import FactGrammar.Proofs.Academic.Extraction
import FactGrammar.Proofs.Token.Places

namespace FactGrammar

open Text

/-- A value is read off what was captured for a field: the text spells it where the captured tokens
stand. -/
structure Match.ReadsOff (m : Match) (text : String) (binding : Binding) (place : Span)
    (value : String) : Prop where
  captured : ∃ c ∈ m.captures, c.binding = binding ∧ c.span.bytes m.source = place
  spelled : Spells text place value

namespace Match.ReadsOff

variable {m : Match} {text : String} {binding : Binding} {span : Span}

theorem of_span (h : Covers 0 text m.source) (hspan : span.IsStretch m.source)
    (hcaptured : ∃ c ∈ m.captures, c.binding = binding ∧ c.span = span) :
    m.ReadsOff text binding (span.bytes m.source)
      (Token.join Token.text (span.slice m.source)) := by
  obtain ⟨c, hc, hbinding, rfl⟩ := hcaptured
  exact ⟨⟨c, hc, hbinding, rfl⟩, h.spells_bytes hspan⟩

theorem of_spans {span? : Option Span} (h : Covers 0 text m.source)
    (hspans : ∀ span ∈ span?.toList, span.IsStretch m.source ∧
      ∃ c ∈ m.captures, c.binding = binding ∧ c.span = span) :
    Option.Rel (m.ReadsOff text binding) (span?.map (Span.bytes m.source))
      (span?.map fun span => Token.join Token.text (span.slice m.source)) := by
  cases span? with
  | none => exact .none
  | some span =>
    obtain ⟨hspan, hcaptured⟩ := hspans span (List.mem_singleton.2 rfl)
    exact .some (of_span h hspan hcaptured)

end Match.ReadsOff

theorem toList_filter_sublist (p : α → Bool) (o : Option α) :
    (o.filter p).toList.Sublist o.toList := by
  rw [Option.toList_filter]
  exact List.filter_sublist

theorem Span.bind_text? (form : Token → String) (tokens : List Token) (span? : Option Span) :
    span?.bind (text? form tokens) =
      (span?.filter (!·.isEmpty)).map fun span => Token.join form (span.slice tokens) := by
  cases span? with
  | none => rfl
  | some span =>
    rw [Option.bind_some, text?]
    cases hempty : span.isEmpty with
    | true =>
      rw [Option.filter_some_neg (by simp [hempty])]
      rfl
    | false =>
      rw [Option.filter_some_pos (by simp [hempty])]
      rfl

theorem Span.start_lt_of_mem_filter {span? : Option Span}
    (h : span ∈ (span?.filter (!·.isEmpty)).toList) : span.start < span.stop := by
  rw [Option.toList_filter] at h
  have hempty := (List.mem_filter.1 h).2
  rw [Bool.not_eq_true'] at hempty
  exact isEmpty_eq_false_iff.1 hempty

namespace CaptureForest

/-- The spans of the outermost captures of one binding. -/
def spansFor (binding : Binding) (f : CaptureForest) : List Span :=
  f.spansOf fun b => decide (b = binding)

theorem exists_capture_of_mem_spansFor {f : CaptureForest} (h : span ∈ f.spansFor binding) :
    ∃ c ∈ f.flatten, c.binding = binding ∧ c.span = span := by
  obtain ⟨c, hc, hbinding, hspan⟩ := exists_capture_of_mem_spansOf h
  exact ⟨c, hc, of_decide_eq_true hbinding, hspan⟩

end CaptureForest

namespace Academic

variable {tokens : List Token} {text : String}

namespace Department

/-- The definition of an affiliation is read off a match in a text, inside which it stands. -/
structure ReadOff (department : Department) (m : Match) (text : String) (place : Span) : Prop where
  definition : m.ReadsOff text (.field schema.name "definition" .raw) place department.definition
  arranged : (m.span.bytes m.source).Arranged [place]

theorem readOff_of_locate {layout : Layout} (h : locate tokens p = some layout)
    (hstop : layout.span.stop ≤ tokens.length) (hcovers : Covers 0 text tokens) :
    (layout.value tokens).ReadOff ⟨tokens, ⟨p, layout.span.stop⟩, layout.forest.flatten⟩ text
      (layout.definition.bytes tokens) := by
  have hrun : (rule.recognizer (grammar.follow tokens 256)).run p = _ := run_rule 254 p
  rw [h] at hrun
  have hspans : layout.forest.spansFor (.field schema.name "definition" .raw) =
      [layout.definition] := by
    obtain ⟨definition, position⟩ := layout
    cases position <;> rfl
  have harranged : (⟨p, layout.span.stop⟩ : Span).Arranged [layout.definition] :=
    hspans ▸ (Recognizer.between _ hrun).arranged _
  have hdefinition := isStretch_of_locate h
  have hwhole := harranged.isStretch List.mem_cons_self hdefinition hstop
  refine ⟨.of_span hcovers hdefinition (CaptureForest.exists_capture_of_mem_spansFor ?_),
    hcovers.arranged_bytes hwhole (List.forall_mem_singleton.2 hdefinition) harranged⟩
  rw [hspans]
  exact List.mem_singleton.2 rfl

theorem readOff_of_matchAt (hcovers : Covers 0 text tokens)
    (hm : grammar.matchAt rule tokens start = some m) :
    ∃ department place, m.interpret Department = .ok department ∧
      department.ReadOff m text place := by
  have hstop := Grammar.stop_le_of_matchAt hm
  obtain ⟨layout, hlayout, rfl⟩ := Grammar.layout_of_matchAt (run_rule 254 start) hm
  exact ⟨_, _, layout.interpret_forest _ (isStretch_of_locate hlayout),
    readOff_of_locate hlayout hstop hcovers⟩

end Department

theorem AcademicDegree.isStretch_of_locate {layout : Layout} (h : locate tokens p = some layout) :
    layout.span.IsStretch tokens := by
  obtain ⟨degree, hdegree, h⟩ := Option.bind_eq_some_iff.1 h
  obtain ⟨last, hlast, h⟩ := Option.bind_eq_some_iff.1 h
  obtain ⟨suffix, hsuffix, he⟩ := Option.bind_eq_some_iff.1 h
  cases he
  obtain ⟨_, rfl⟩ := tokenSpan_eq_some_iff.1 hdegree
  obtain ⟨_, rfl⟩ := tokenSpan_eq_some_iff.1 hsuffix
  have hlt := (lt_of_afterSome hlast).1
  have hle := (isStretch_of_tokenSpan hsuffix).stop_le
  refine ⟨?_, hle⟩
  dsimp only [Layout.span] at hlt ⊢
  omega

theorem AcademicDegree.exists_matchAt {layout : Layout} (h : locate tokens p = some layout) :
    ∃ m, grammar.matchAt (.reference "academic_degree") tokens m.span.start = some m ∧
      m.interpret AcademicDegree = .ok (layout.value tokens) ∧ m.span = layout.span := by
  have hspan := isStretch_of_locate h
  have hstart := start_of_locate h
  have hle : p ≤ tokens.length := by
    have hlt := hspan.start_lt
    have hstop := hspan.stop_le
    omega
  have hm := Grammar.matchAt_of_layout (eval_reference tokens p) hle h
  obtain rfl := hstart
  exact ⟨⟨tokens, layout.span, layout.forest.flatten⟩, hm,
    layout.interpret_forest _ (filled_of_locate h), rfl⟩

namespace Thesis

/-- Where the values of a thesis stand, in tokens or in bytes. -/
structure Places where
  title : Span
  degree : Option Span
  code : Option Span
  hyphen : Option Span
  name : Option Span

namespace Places

def inOrder (places : Places) : List Span :=
  places.title :: (places.degree.toList ++ (places.code.toList ++
    (places.hyphen.toList ++ places.name.toList)))

def map (f : Span → Span) (places : Places) : Places where
  title := f places.title
  degree := places.degree.map f
  code := places.code.map f
  hyphen := places.hyphen.map f
  name := places.name.map f

theorem inOrder_map (f : Span → Span) (places : Places) :
    (places.map f).inOrder = places.inOrder.map f := by
  simp only [inOrder, map, List.map_cons, List.map_append, Option.toList_map]

theorem subset_inOrder (places : Places) :
    places.code.toList ⊆ places.inOrder ∧ places.hyphen.toList ⊆ places.inOrder ∧
      places.name.toList ⊆ places.inOrder := by
  refine ⟨?_, ?_, ?_⟩
  all_goals
    intro span hmem
    simp only [inOrder, List.mem_cons, List.mem_append, hmem, true_or, or_true]

end Places

/-- The values of a thesis are read off a match in a text. They stand one after the other inside
what was matched, and between title and speciality stand the tokens of the degree. -/
structure ReadOff (thesis : Thesis) (m : Match) (text : String) (places : Places) : Prop where
  title : m.ReadsOff text (.field schema.name "title" .raw) places.title thesis.title
  degree : Option.Rel (fun place degree => ∃ inner,
    grammar.matchAt (.reference "academic_degree") m.source inner.span.start = some inner ∧
      inner.interpret AcademicDegree = .ok degree ∧ inner.span.bytes m.source = place)
    places.degree thesis.degree
  code : Option.Rel (m.ReadsOff text (.field Speciality.schema.name "code" .raw))
    places.code (thesis.speciality.bind Speciality.code)
  hyphen : Option.Rel (m.ReadsOff text (.field Speciality.schema.name "hyphen" .raw))
    places.hyphen (thesis.speciality.bind Speciality.hyphen)
  name : Option.Rel (m.ReadsOff text (.field Speciality.schema.name "name" .raw))
    places.name (thesis.speciality.map Speciality.name)
  arranged : (m.span.bytes m.source).Arranged places.inOrder

namespace Layout

def places (layout : Layout) : Places where
  title := layout.title
  degree := (layout.tail.bind Tail.degree).map AcademicDegree.Layout.span
  code := (layout.tail.bind (·.speciality.code)).filter (!·.isEmpty)
  hyphen := (layout.tail.bind (·.speciality.hyphen)).filter (!·.isEmpty)
  name := layout.tail.map (·.speciality.name)

def isPart (binding : Binding) : Bool :=
  decide (binding ∈ [.field schema.name "title" .raw, .field schema.name "degree" .nested,
    .field Speciality.schema.name "code" .raw, .field Speciality.schema.name "hyphen" .raw,
    .field Speciality.schema.name "name" .raw])

theorem sublist_spansOf (layout : Layout) :
    layout.places.inOrder.Sublist (layout.forest.spansOf isPart) := by
  obtain ⟨kind, title, tail⟩ := layout
  cases tail with
  | none => exact List.Sublist.refl [title]
  | some tail =>
    obtain ⟨degree, span, code, hyphen, name⟩ := tail
    have hspans : (Layout.forest ⟨kind, title, some ⟨degree, ⟨span, code, hyphen, name⟩⟩⟩).spansOf
        isPart = title :: ((degree.map AcademicDegree.Layout.span).toList ++
          (code.toList ++ (hyphen.toList ++ [name]))) := by
      cases degree <;> cases code <;> cases hyphen <;> rfl
    rw [hspans]
    exact .cons_cons title (.append (.refl _)
      (.append (toList_filter_sublist _ code) (.append (toList_filter_sublist _ hyphen) (.refl _))))

/-- What has a value was captured for the field of that value. -/
theorem sublist_spansFor (layout : Layout) :
    [layout.places.title].Sublist (layout.forest.spansFor (.field schema.name "title" .raw)) ∧
      layout.places.code.toList.Sublist
        (layout.forest.spansFor (.field Speciality.schema.name "code" .raw)) ∧
      layout.places.hyphen.toList.Sublist
        (layout.forest.spansFor (.field Speciality.schema.name "hyphen" .raw)) ∧
      layout.places.name.toList.Sublist
        (layout.forest.spansFor (.field Speciality.schema.name "name" .raw)) := by
  obtain ⟨kind, title, tail⟩ := layout
  cases tail with
  | none => exact ⟨.refl _, .refl _, .refl _, .refl _⟩
  | some tail =>
    obtain ⟨degree, span, code, hyphen, name⟩ := tail
    have hspans : (Layout.forest ⟨kind, title, some ⟨degree, ⟨span, code, hyphen, name⟩⟩⟩).spansFor
          (.field schema.name "title" .raw) = [title] ∧
        (Layout.forest ⟨kind, title, some ⟨degree, ⟨span, code, hyphen, name⟩⟩⟩).spansFor
          (.field Speciality.schema.name "code" .raw) = code.toList ∧
        (Layout.forest ⟨kind, title, some ⟨degree, ⟨span, code, hyphen, name⟩⟩⟩).spansFor
          (.field Speciality.schema.name "hyphen" .raw) = hyphen.toList ∧
        (Layout.forest ⟨kind, title, some ⟨degree, ⟨span, code, hyphen, name⟩⟩⟩).spansFor
          (.field Speciality.schema.name "name" .raw) = [name] := by
      cases degree <;> cases code <;> cases hyphen <;> exact ⟨rfl, rfl, rfl, rfl⟩
    obtain ⟨htitle, hcode, hhyphen, hname⟩ := hspans
    rw [htitle, hcode, hhyphen, hname]
    exact ⟨.refl _, toList_filter_sublist _ code, toList_filter_sublist _ hyphen, .refl _⟩

end Layout

theorem Layout.speciality_value (layout : Layout) (tokens : List Token) :
    (layout.value tokens).speciality.bind Speciality.code =
        layout.places.code.map (fun span => Token.join Token.text (span.slice tokens)) ∧
      (layout.value tokens).speciality.bind Speciality.hyphen =
        layout.places.hyphen.map (fun span => Token.join Token.text (span.slice tokens)) ∧
      (layout.value tokens).speciality.map Speciality.name =
        layout.places.name.map fun span => Token.join Token.text (span.slice tokens) := by
  obtain ⟨kind, title, tail⟩ := layout
  cases tail with
  | none => exact ⟨rfl, rfl, rfl⟩
  | some tail => exact ⟨Span.bind_text? _ _ _, Span.bind_text? _ _ _, rfl⟩

theorem arranged_of_locate {layout : Layout} (h : locate tokens p = some layout) :
    (⟨p, layout.span.stop⟩ : Span).Arranged layout.places.inOrder := by
  have hrun : (rule.recognizer (grammar.follow tokens 256)).run p = _ := run_rule 254 p
  rw [h] at hrun
  exact ((Recognizer.between _ hrun).arranged Layout.isPart).sublist layout.sublist_spansOf

theorem isStretch_of_mem_places {layout : Layout} (h : locate tokens p = some layout)
    (hstop : layout.span.stop ≤ tokens.length) :
    ∀ part ∈ layout.places.inOrder, part.IsStretch tokens := by
  intro part hpart
  have htitle := isStretch_of_locate h
  have htail := locateTail_of_locate h
  refine ⟨?_, Nat.le_trans ((arranged_of_locate h).inside part hpart).2 hstop⟩
  obtain ⟨kind, title, tail⟩ := layout
  cases tail with
  | none =>
    cases List.mem_singleton.1 hpart
    exact htitle.start_lt
  | some tail =>
    obtain ⟨hdegree, q, hspeciality⟩ := located_of_locateTail htail.symm
    simp only [Places.inOrder, Layout.places, List.mem_cons, List.mem_append] at hpart
    rcases hpart with rfl | hpart | hpart | hpart | hpart
    · exact htitle.start_lt
    · obtain ⟨degree, hsome, rfl⟩ := Option.map_eq_some_iff.1 (Option.mem_toList.1 hpart)
      obtain ⟨q', hlocate⟩ := hdegree degree hsome
      exact (AcademicDegree.isStretch_of_locate hlocate).start_lt
    -- Code and hyphen may be empty, but then they are not among the places.
    · exact Span.start_lt_of_mem_filter hpart
    · exact Span.start_lt_of_mem_filter hpart
    · cases Option.mem_toList.1 hpart
      exact (Speciality.isStretch_of_locate hspeciality).start_lt

theorem degree_of_locate {layout : Layout} (h : locate tokens p = some layout) :
    Option.Rel (fun place degree => ∃ inner,
      grammar.matchAt (.reference "academic_degree") tokens inner.span.start = some inner ∧
        inner.interpret AcademicDegree = .ok degree ∧ inner.span.bytes tokens = place)
      (layout.places.map (Span.bytes tokens)).degree (layout.value tokens).degree := by
  have htail := locateTail_of_locate h
  obtain ⟨kind, title, tail⟩ := layout
  cases tail with
  | none => exact .none
  | some tail =>
    obtain ⟨hdegree, _⟩ := located_of_locateTail htail.symm
    obtain ⟨degree, speciality⟩ := tail
    cases degree with
    | none => exact .none
    | some degree =>
      obtain ⟨q, hlocate⟩ := hdegree degree rfl
      obtain ⟨inner, hinner, hvalue, hspan⟩ := AcademicDegree.exists_matchAt hlocate
      exact .some ⟨inner, hinner, hvalue, congrArg (Span.bytes tokens) hspan⟩

theorem readsOff_part {layout : Layout} {binding : Binding} {span? : Option Span}
    {value? : Option String} (hcovers : Covers 0 text tokens) (stop : Nat)
    (hparts : ∀ part ∈ layout.places.inOrder, part.IsStretch tokens)
    (hvalue : value? = span?.map fun span => Token.join Token.text (span.slice tokens))
    (hplaces : span?.toList ⊆ layout.places.inOrder)
    (hspans : span?.toList.Sublist (layout.forest.spansFor binding)) :
    Option.Rel (Match.ReadsOff ⟨tokens, ⟨p, stop⟩, layout.forest.flatten⟩ text binding)
      (span?.map (Span.bytes tokens)) value? := by
  rw [hvalue]
  exact Match.ReadsOff.of_spans hcovers fun span hmem => ⟨hparts span (hplaces hmem),
    CaptureForest.exists_capture_of_mem_spansFor (hspans.subset hmem)⟩

/-- The values of a thesis that is located in the tokens of a text are read off the text. -/
theorem readOff_of_locate {layout : Layout} (h : locate tokens p = some layout)
    (hstop : layout.span.stop ≤ tokens.length) (hcovers : Covers 0 text tokens) :
    (layout.value tokens).ReadOff ⟨tokens, ⟨p, layout.span.stop⟩, layout.forest.flatten⟩ text
      (layout.places.map (Span.bytes tokens)) := by
  have hparts := isStretch_of_mem_places h hstop
  have harranged := arranged_of_locate h
  have htitle := isStretch_of_locate h
  have hwhole := harranged.isStretch List.mem_cons_self htitle hstop
  obtain ⟨hspan, hcode, hhyphen, hname⟩ := layout.sublist_spansFor
  obtain ⟨hcode', hhyphen', hname'⟩ := layout.speciality_value tokens
  obtain ⟨hcodes, hhyphens, hnames⟩ := layout.places.subset_inOrder
  exact {
    title := .of_span hcovers htitle
      (CaptureForest.exists_capture_of_mem_spansFor (List.singleton_sublist.1 hspan))
    degree := degree_of_locate h
    code := readsOff_part hcovers _ hparts hcode' hcodes hcode
    hyphen := readsOff_part hcovers _ hparts hhyphen' hhyphens hhyphen
    name := readsOff_part hcovers _ hparts hname' hnames hname
    arranged := by
      rw [Places.inOrder_map]
      exact hcovers.arranged_bytes hwhole hparts harranged }

theorem readOff_of_matchAt (hcovers : Covers 0 text tokens)
    (hm : grammar.matchAt rule tokens start = some m) :
    ∃ thesis places, m.interpret Thesis = .ok thesis ∧ thesis.ReadOff m text places := by
  have hstop := Grammar.stop_le_of_matchAt hm
  obtain ⟨layout, hlayout, rfl⟩ := Grammar.layout_of_matchAt (run_rule 254 start) hm
  exact ⟨_, _, layout.interpret_forest _ (filled_of_locate hlayout),
    readOff_of_locate hlayout hstop hcovers⟩

end Thesis

theorem pairwise_bytes_findAll (hcovers : Covers 0 text tokens) (rule : Rule) :
    ((grammar.findAll rule tokens).map (·.span.bytes tokens)).Pairwise fun place next =>
      place.stop ≤ next.start := by
  have hfound := grammar.findFrom_leftmost rule tokens 0
  have hspans : ∀ span ∈ (grammar.findAll rule tokens).map Match.span, span.IsStretch tokens :=
    List.forall_mem_map.2 fun m hm => ⟨hfound.nonempty m hm, hfound.stop_le m hm⟩
  have hbytes := hcovers.pairwise_bytes hspans (List.pairwise_map.2 hfound.pairwise_apart)
  rwa [List.map_map] at hbytes

theorem spells_of_mem_extract {lexicon : Lexicon} {fact : Fact}
    (h : fact ∈ (extract (.ofLexicon lexicon) text).facts.toList) (ha : a ∈ fact.attributes)
    (hkind : a.kind = .department ∨ a.kind = .thesis) : ∃ place, Spells text place a.value := by
  have hcovers := lexicon.covers_tokenize text
  rw [toList_extract] at h
  rcases List.mem_append.1 (Fact.attributes_mem_of_mem_numbered h) with h | h
  · rcases List.mem_append.1 h with h | h
    · rw [scientist_eq] at h
      obtain ⟨full, _, heq⟩ := List.mem_map.1 h
      rw [← heq, List.mem_singleton] at ha
      rw [ha] at hkind
      rcases hkind with hkind | hkind <;> cases hkind
    · obtain ⟨department, hmem, heq⟩ := List.mem_map.1 h
      obtain ⟨start, m, hm, hvalue⟩ := matchAt_of_mem_factsOf hmem
      obtain ⟨_, place, hvalue', hread⟩ := Department.readOff_of_matchAt hcovers hm
      cases hvalue.symm.trans hvalue'
      rw [← heq, List.mem_singleton] at ha
      rw [ha]
      exact ⟨place, hread.definition.spelled⟩
  · obtain ⟨thesis, hmem, heq⟩ := List.mem_map.1 h
    obtain ⟨start, m, hm, hvalue⟩ := matchAt_of_mem_factsOf hmem
    obtain ⟨_, places, hvalue', hread⟩ := Thesis.readOff_of_matchAt hcovers hm
    cases hvalue.symm.trans hvalue'
    rw [← heq, ← thesisAttributes_eq] at ha
    rcases mem_thesisAttributes.1 (List.mem_filter.1 ha).1 with rfl | ⟨_, _, rfl⟩ |
      ⟨_, _, rfl | rfl⟩
    · exact ⟨places.title, hread.title.spelled⟩
    all_goals rcases hkind with hkind | hkind <;> cases hkind

/-- No surface text is made up. What is extracted as it is written stands in the text, inside the
match that it comes from, and the matches of departments and of theses follow one another. -/
theorem extract_spelled (lexicon : Lexicon) (text : String) :
    let tokens := lexicon.tokenize text
    let departments := grammar.findAll Department.rule tokens
    let theses := grammar.findAll Thesis.rule tokens
    (∀ fact ∈ (extract (.ofLexicon lexicon) text).facts.toList, ∀ a ∈ fact.attributes,
        a.kind = .department ∨ a.kind = .thesis → ∃ place, Spells text place a.value) ∧
      (∀ m ∈ departments, ∃ department place, m.interpret Department = .ok department ∧
        department.ReadOff m text place) ∧
      (∀ m ∈ theses, ∃ thesis places, m.interpret Thesis = .ok thesis ∧
        thesis.ReadOff m text places) ∧
      (departments.map (·.span.bytes tokens)).Pairwise (fun place next =>
        place.stop ≤ next.start) ∧
      (theses.map (·.span.bytes tokens)).Pairwise fun place next => place.stop ≤ next.start := by
  intro tokens departments theses
  have hcovers : Covers 0 text tokens := lexicon.covers_tokenize text
  refine ⟨fun fact hfact a ha => spells_of_mem_extract hfact ha, fun m hm => ?_, fun m hm => ?_,
    pairwise_bytes_findAll hcovers _, pairwise_bytes_findAll hcovers _⟩
  · exact Department.readOff_of_matchAt hcovers
      ((grammar.findFrom_leftmost Department.rule tokens 0).isMatch m hm)
  · exact Thesis.readOff_of_matchAt hcovers
      ((grammar.findFrom_leftmost Thesis.rule tokens 0).isMatch m hm)

def candidates : Lexicon :=
  ⟨#[⟨["кандидата"], "кандидат", none, .empty⟩], [("кандидата", 0)]⟩

/-- A thesis with all its parts, in a text with blanks of several kinds. -/
def announcement : String :=
  "Диссертация «Ряды\n и суммы» кандидата\u00a0точных наук по специальность 1.2. 3 - «Числа»"

theorem extract_spelled_announcement :
    ∃ m ∈ grammar.findAll Thesis.rule (candidates.tokenize announcement), ∃ thesis places,
      m.interpret Thesis = .ok thesis ∧ thesis.ReadOff m announcement places ∧
        thesis = ⟨none, "Ряды и суммы", some ⟨some "1.2. 3", some "-", "Числа"⟩,
          some ⟨"кандидат", ⟨"точных"⟩, "наук"⟩⟩ := by
  have hvalue : (Thesis.locate (candidates.tokenize announcement) 0).map
      (·.value (candidates.tokenize announcement)) =
        some ⟨none, "Ряды и суммы", some ⟨some "1.2. 3", some "-", "Числа"⟩,
          some ⟨"кандидат", ⟨"точных"⟩, "наук"⟩⟩ := by
    decide +kernel
  obtain ⟨layout, hlayout, hvalue⟩ := Option.map_eq_some_iff.1 hvalue
  have hm := Grammar.matchAt_of_layout (Thesis.run_rule 254 0) (Nat.zero_le _) hlayout
  have hspan := (Thesis.arranged_of_locate hlayout).isStretch List.mem_cons_self
    (Thesis.isStretch_of_locate hlayout) (Grammar.stop_le_of_matchAt hm)
  have hfound := grammar.findFrom_leftmost Thesis.rule (candidates.tokenize announcement) 0
  obtain ⟨rest, hrest⟩ :=
    hfound.eq_cons (Nat.lt_of_lt_of_le hspan.start_lt hspan.stop_le) hm
      (Span.isEmpty_eq_false_iff.2 hspan.start_lt)
  have hmem := List.mem_of_mem_head? (congrArg List.head? hrest)
  obtain ⟨_, _, htheses, _⟩ := extract_spelled candidates announcement
  obtain ⟨thesis, places, hthesis, hread⟩ := htheses _ hmem
  cases hthesis.symm.trans (layout.interpret_forest _ (Thesis.filled_of_locate hlayout))
  exact ⟨_, hmem, _, places, hthesis, hread, hvalue⟩

end Academic

end FactGrammar
