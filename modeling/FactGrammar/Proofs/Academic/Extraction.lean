import FactGrammar.Proofs.Academic.Decoding
import FactGrammar.Proofs.Facts.Collection
import FactGrammar.Proofs.Token.Forms

namespace FactGrammar.Academic

variable {tokens : List Token} {p : Nat}

theorem Department.definition_ne_empty (h : locate tokens p = some layout)
    (htext : ∀ token ∈ tokens, token.text ≠ "") : (layout.value tokens).definition ≠ "" :=
  (isStretch_of_locate h).join_ne_empty htext

theorem Speciality.label_ne_empty {speciality : Speciality} (h : speciality.name ≠ "") :
    speciality.label ≠ "" := by
  rw [label]
  split
  · exact fun hempty => h (String.append_eq_empty_iff.1 hempty).2
  · exact fun hempty => h (String.append_eq_empty_iff.1 hempty).2
  · exact h

theorem AcademicDegree.degree_ne_empty (h : locate tokens p = some layout) :
    (layout.value tokens).degree ≠ "" := by
  obtain ⟨degree, hdegree, h⟩ := Option.bind_eq_some_iff.1 h
  obtain ⟨last, _, h⟩ := Option.bind_eq_some_iff.1 h
  obtain ⟨suffix, _, he⟩ := Option.bind_eq_some_iff.1 h
  cases he
  obtain ⟨token, _, haccepts, hslice⟩ := Span.slice_of_tokenSpan hdegree
  change Token.join Token.normal (degree.slice tokens) ≠ ""
  rw [hslice, Token.join_singleton]
  intro hempty
  rw [isDegree, hempty] at haccepts
  cases haccepts

theorem PersonName.fullName_ne_empty (h : locate tokens p = some layout)
    (htext : ∀ token ∈ tokens, token.text ≠ "")
    (hfull : (layout.value tokens).fullName = some full) : full ≠ "" := by
  obtain ⟨first, hfirst, rfl⟩ := Option.map_eq_some_iff.1 hfull
  obtain ⟨span, hspan, htext?⟩ := Option.bind_eq_some_iff.1 hfirst
  have hstretch := isStretch_of_locate h hspan
  rw [Span.text?_of_lt _ _ hstretch.start_lt] at htext?
  cases htext?
  exact Text.intercalate_ne_empty _ (by simp) (hstretch.join_ne_empty htext)

structure Thesis.Complete (thesis : Thesis) (tokens : List Token) : Prop where
  title : thesis.title ≠ ""
  speciality : ∀ speciality, thesis.speciality = some speciality → speciality.label ≠ ""
  degree : ∀ degree, thesis.degree = some degree → degree.degree ≠ ""
  branch : (∀ token ∈ tokens, token.normal ≠ "") →
    ∀ degree, thesis.degree = some degree → degree.branch.name ≠ ""
  together : thesis.degree.isSome → thesis.speciality.isSome

theorem Thesis.complete_of_locate (h : locate tokens p = some layout)
    (htext : ∀ token ∈ tokens, token.text ≠ "") : (layout.value tokens).Complete tokens := by
  have htitle := (isStretch_of_locate h).join_ne_empty htext
  have htail := locateTail_of_locate h
  obtain ⟨kind, title, tail⟩ := layout
  cases tail with
  | none => exact ⟨htitle, nofun, nofun, nofun, nofun⟩
  | some tail =>
    obtain ⟨hdegree, q, hspeciality⟩ := located_of_locateTail htail.symm
    refine ⟨htitle, ?_, ?_, ?_, fun _ => rfl⟩
    · rintro _ ⟨⟩
      have hname := (Speciality.isStretch_of_locate hspeciality).join_ne_empty htext
      exact Speciality.label_ne_empty hname
    · intro degree hsome
      obtain ⟨degree, hlayout, rfl⟩ := Option.map_eq_some_iff.1 hsome
      obtain ⟨q, hlocate⟩ := hdegree degree hlayout
      exact AcademicDegree.degree_ne_empty hlocate
    · intro hnormal degree hsome
      obtain ⟨degree, hlayout, rfl⟩ := Option.map_eq_some_iff.1 hsome
      obtain ⟨q, hlocate⟩ := hdegree degree hlayout
      exact (AcademicDegree.filled_of_locate hlocate).branch.join_ne_empty hnormal

theorem matchAt_of_mem_factsOf [FactType α] (h : value ∈ factsOf α rule tokens) :
    ∃ start m, grammar.matchAt rule tokens start = some m ∧ m.interpret α = .ok value := by
  obtain ⟨m, hm, hvalue⟩ := List.mem_filterMap.1 h
  refine ⟨m.span.start, m, (grammar.findFrom_leftmost rule tokens 0).isMatch m hm, ?_⟩
  cases hinterpret : m.interpret α with
  | error e =>
    rw [hinterpret] at hvalue
    cases hvalue
  | ok found =>
    rw [hinterpret] at hvalue
    cases hvalue
    rfl

theorem definition_ne_empty_of_mem (h : department ∈ factsOf Department Department.rule tokens)
    (htext : ∀ token ∈ tokens, token.text ≠ "") : department.definition ≠ "" := by
  obtain ⟨start, m, hm, hvalue⟩ := matchAt_of_mem_factsOf h
  obtain ⟨layout, hlayout, hlocated⟩ := Department.interpret_of_matchAt hm
  cases hvalue.symm.trans hlocated
  exact Department.definition_ne_empty hlayout htext

theorem complete_of_mem (h : thesis ∈ factsOf Thesis Thesis.rule tokens)
    (htext : ∀ token ∈ tokens, token.text ≠ "") : thesis.Complete tokens := by
  obtain ⟨start, m, hm, hvalue⟩ := matchAt_of_mem_factsOf h
  obtain ⟨layout, hlayout, hlocated⟩ := Thesis.interpret_of_matchAt hm
  cases hvalue.symm.trans hlocated
  exact Thesis.complete_of_locate hlayout htext

theorem fullName_ne_empty_of_first
    (h : (firstPersonName tokens).bind PersonName.fullName = some full)
    (htext : ∀ token ∈ tokens, token.text ≠ "") : full ≠ "" := by
  obtain ⟨name, hname, hfull⟩ := Option.bind_eq_some_iff.1 h
  have hfound := map_firstPersonName tokens
  rw [hname, Option.map_some] at hfound
  obtain ⟨m, hhead, hvalue⟩ := Option.map_eq_some_iff.1 hfound.symm
  have hm := (Grammar.empty.findFrom_leftmost PersonName.rule tokens 0).isMatch m
    (List.mem_of_head? hhead)
  obtain ⟨layout, hlayout, hlocated⟩ := PersonName.interpret_of_matchAt hm
  cases hvalue.symm.trans hlocated
  exact PersonName.fullName_ne_empty hlayout htext hfull

/-- The parts that are known, with a space between them. -/
def spaced (parts : List (Option String)) : String :=
  " ".intercalate (parts.filterMap id)

theorem PersonName.fullName_eq (name : PersonName) :
    name.fullName = name.first.map fun first => spaced [name.last, some first, name.middle] := by
  obtain ⟨first, middle, last⟩ := name
  cases last <;> cases middle <;> rfl

theorem Speciality.label_eq (speciality : Speciality) :
    speciality.label = spaced [speciality.code, speciality.code.bind fun _ => speciality.hyphen,
      some speciality.name] := by
  obtain ⟨code, hyphen, name⟩ := speciality
  cases code <;> cases hyphen <;> rfl

/-- What a thesis says of itself. Its speciality is written with the code and with the hyphen behind
the code, as far as they are known. -/
def Thesis.statements (thesis : Thesis) : List Attribute :=
  [⟨.thesis, thesis.title⟩] ++
    thesis.speciality.toList.map (fun s =>
      ⟨.speciality, spaced [s.code, s.code.bind fun _ => s.hyphen, some s.name]⟩) ++
    thesis.degree.toList.flatMap fun degree =>
      [⟨.academicDegree, degree.degree⟩, ⟨.branchOfScience, degree.branch.name⟩]

theorem thesisAttributes_eq (thesis : Thesis) : thesisAttributes thesis = thesis.statements := by
  obtain ⟨kind, title, speciality, degree⟩ := thesis
  cases speciality with
  | none => cases degree <;> rfl
  | some speciality =>
    rw [thesisAttributes, Thesis.statements, Option.toList_some, List.map_singleton,
      ← speciality.label_eq]
    cases degree <;> rfl

theorem mem_thesisAttributes {thesis : Thesis} :
    a ∈ thesisAttributes thesis ↔ a = ⟨.thesis, thesis.title⟩ ∨
      (∃ speciality, thesis.speciality = some speciality ∧ a = ⟨.speciality, speciality.label⟩) ∨
      ∃ degree, thesis.degree = some degree ∧
        (a = ⟨.academicDegree, degree.degree⟩ ∨ a = ⟨.branchOfScience, degree.branch.name⟩) := by
  obtain ⟨kind, title, speciality, degree⟩ := thesis
  cases speciality <;> cases degree <;> simp [thesisAttributes]

namespace Thesis.Complete

variable {thesis : Thesis}

theorem kind_of_empty (h : thesis.Complete tokens) (ha : a ∈ thesisAttributes thesis)
    (hempty : a.value = "") : a.kind = .branchOfScience := by
  rcases mem_thesisAttributes.1 ha with rfl | ⟨speciality, hspeciality, rfl⟩ |
    ⟨degree, hdegree, rfl | rfl⟩
  · exact absurd hempty h.title
  · exact absurd hempty (h.speciality speciality hspeciality)
  · exact absurd hempty (h.degree degree hdegree)
  · rfl

theorem mem_filled (h : thesis.Complete tokens) (ha : a ∈ thesisAttributes thesis)
    (hkind : a.kind ≠ .branchOfScience) : a ∈ Attribute.filled (thesisAttributes thesis) :=
  Attribute.mem_filled ha fun hempty => hkind (h.kind_of_empty ha hempty)

theorem filled_ne_nil (h : thesis.Complete tokens) :
    Attribute.filled (thesisAttributes thesis) ≠ [] :=
  List.ne_nil_of_mem (h.mem_filled (mem_thesisAttributes.2 (.inl rfl)) nofun)

theorem filled_eq_self (h : thesis.Complete tokens)
    (hnormal : ∀ token ∈ tokens, token.normal ≠ "") :
    Attribute.filled (thesisAttributes thesis) = thesisAttributes thesis := by
  refine Attribute.filled_eq_self fun a ha hempty => ?_
  have hkind := h.kind_of_empty ha hempty
  rcases mem_thesisAttributes.1 ha with rfl | ⟨_, _, rfl⟩ | ⟨degree, hdegree, rfl | rfl⟩
  · cases hkind
  · cases hkind
  · cases hkind
  · exact h.branch hnormal degree hdegree hempty

theorem kinds (h : thesis.Complete tokens) :
    (thesisAttributes thesis).map (·.kind) ∈ ([[.thesis], [.thesis, .speciality],
      [.thesis, .speciality, .academicDegree, .branchOfScience]] : List (List FactKind)) := by
  have htogether := h.together
  obtain ⟨kind, title, speciality, degree⟩ := thesis
  cases speciality with
  | some speciality => cases degree <;> simp [thesisAttributes]
  | none =>
    cases degree with
    | none => simp [thesisAttributes]
    | some degree => cases htogether rfl

theorem speciality_mem (h : thesis.Complete tokens)
    (hmem : .academicDegree ∈ (Attribute.filled (thesisAttributes thesis)).map (·.kind)) :
    .speciality ∈ (Attribute.filled (thesisAttributes thesis)).map (·.kind) := by
  obtain ⟨a, ha, hkind⟩ := List.mem_map.1 hmem
  have hdegree : thesis.degree.isSome := by
    rcases mem_thesisAttributes.1 (List.mem_filter.1 ha).1 with rfl | ⟨_, _, rfl⟩ |
      ⟨degree, hdegree, _⟩
    · cases hkind
    · cases hkind
    · rw [hdegree]
      rfl
  obtain ⟨speciality, hspeciality⟩ := Option.isSome_iff_exists.1 (h.together hdegree)
  have hlabel := mem_thesisAttributes.2 (.inr (.inl ⟨speciality, hspeciality, rfl⟩))
  exact List.mem_map.2 ⟨_, h.mem_filled hlabel nofun, rfl⟩

end Thesis.Complete

/-- A scientist, who must have a first name and is written with the last name in front and the
middle name behind it, as far as they are known. -/
def scientist : Option PersonName → List (List Attribute)
  | some ⟨some first, middle, last⟩ => [[⟨.scientist, spaced [last, some first, middle]⟩]]
  | _ => []

theorem scientist_eq (name : Option PersonName) :
    scientist name =
      (name.bind PersonName.fullName).toList.map fun full => [⟨.scientist, full⟩] := by
  cases name with
  | none => rfl
  | some name =>
    rw [Option.bind_some, name.fullName_eq]
    obtain ⟨first, middle, last⟩ := name
    cases first <;> rfl

/-- The values of the facts: the scientist, then the departments, then the theses. -/
def factGroups (name : Option PersonName) (departments : List Department) (theses : List Thesis) :
    List (List Attribute) :=
  scientist name ++ departments.map (fun department => [⟨.department, department.definition⟩]) ++
    theses.map fun thesis => Attribute.filled thesis.statements

theorem filter_nameAttributes {name : Option PersonName}
    (h : ∀ full, name.bind PersonName.fullName = some full → full ≠ "") :
    ((name.toList.map nameAttributes).map Attribute.filled).filter (!·.isEmpty) =
      scientist name := by
  rw [scientist_eq]
  cases name with
  | none => rfl
  | some name =>
    rw [Option.bind_some] at h ⊢
    rw [Option.toList_some, List.map_singleton, List.map_singleton, nameAttributes]
    cases hfull : name.fullName with
    | none => rfl
    | some full =>
      have hfilled : Attribute.filled [⟨.scientist, full⟩] = [⟨.scientist, full⟩] :=
        Attribute.filled_eq_self (List.forall_mem_singleton.2 (h full hfull))
      dsimp only
      rw [hfilled]
      rfl

theorem filter_departmentAttributes {departments : List Department}
    (h : ∀ department ∈ departments, department.definition ≠ "") :
    ((departments.map departmentAttributes).map Attribute.filled).filter (!·.isEmpty) =
      departments.map fun department => [⟨.department, department.definition⟩] := by
  have hfilled : ∀ department ∈ departments,
      Attribute.filled (departmentAttributes department) = departmentAttributes department :=
    fun department hmem =>
      Attribute.filled_eq_self (List.forall_mem_singleton.2 (h department hmem))
  rw [Attribute.filter_map_filled, List.map_map]
  · exact List.map_congr_left hfilled
  · intro attributes hmem
    obtain ⟨department, hdepartment, rfl⟩ := List.mem_map.1 hmem
    rw [hfilled department hdepartment]
    exact List.cons_ne_nil _ _

theorem filter_thesisAttributes {theses : List Thesis}
    (h : ∀ thesis ∈ theses, thesis.Complete tokens) :
    ((theses.map thesisAttributes).map Attribute.filled).filter (!·.isEmpty) =
      theses.map fun thesis => Attribute.filled thesis.statements := by
  rw [Attribute.filter_map_filled, List.map_map, funext thesisAttributes_eq]
  · rfl
  · intro attributes hmem
    obtain ⟨thesis, hthesis, rfl⟩ := List.mem_map.1 hmem
    exact (h thesis hthesis).filled_ne_nil

theorem toList_extract (lexicon : Lexicon) (text : String) :
    (extract (.ofLexicon lexicon) text).facts.toList =
      Fact.numbered 1 (factGroups (firstPersonName (lexicon.tokenize text))
        (factsOf Department Department.rule (lexicon.tokenize text))
        (factsOf Thesis Thesis.rule (lexicon.tokenize text))) := by
  have htext : ∀ token ∈ lexicon.tokenize text, token.text ≠ "" :=
    fun _ => Lexicon.text_ne_empty
  rw [extract, FactCollection.toList_foldl_add]
  refine congrArg (Fact.numbered 1) ?_
  change ((attributeGroups (firstPersonName (lexicon.tokenize text))
    (lexicon.tokenize text)).map _).filter _ = _
  rw [attributeGroups, List.map_append, List.map_append, List.filter_append, List.filter_append,
    filter_nameAttributes fun _ h => fullName_ne_empty_of_first h htext,
    filter_departmentAttributes fun _ h => definition_ne_empty_of_mem h htext,
    filter_thesisAttributes fun _ h => complete_of_mem h htext]
  rfl

/-- A fact of a text is one value that is not empty, or what is kept of a thesis. -/
theorem attributes_of_mem_extract {lexicon : Lexicon} {fact : Fact}
    (h : fact ∈ (extract (.ofLexicon lexicon) text).facts.toList) :
    (∃ a : Attribute, a.value ≠ "" ∧ (a.kind = .scientist ∨ a.kind = .department) ∧
        fact.attributes = [a]) ∨
      ∃ thesis : Thesis, thesis.Complete (lexicon.tokenize text) ∧
        fact.attributes = Attribute.filled (thesisAttributes thesis) := by
  have htext : ∀ token ∈ lexicon.tokenize text, token.text ≠ "" :=
    fun _ => Lexicon.text_ne_empty
  rw [toList_extract] at h
  rcases List.mem_append.1 (Fact.attributes_mem_of_mem_numbered h) with h | h
  · rcases List.mem_append.1 h with h | h
    · rw [scientist_eq] at h
      obtain ⟨full, hfull, heq⟩ := List.mem_map.1 h
      have hne := fullName_ne_empty_of_first (Option.mem_toList.1 hfull) htext
      exact .inl ⟨_, hne, .inl rfl, heq.symm⟩
    · obtain ⟨department, hmem, heq⟩ := List.mem_map.1 h
      have hne := definition_ne_empty_of_mem hmem htext
      exact .inl ⟨_, hne, .inr rfl, heq.symm⟩
  · obtain ⟨thesis, hmem, heq⟩ := List.mem_map.1 h
    rw [← thesisAttributes_eq] at heq
    exact .inr ⟨thesis, complete_of_mem hmem htext, heq.symm⟩

section

variable {lexicon : Lexicon} {text : String} {fact : Fact}

theorem filled_of_mem_extract (h : fact ∈ (extract (.ofLexicon lexicon) text).facts.toList) :
    fact.attributes ≠ [] ∧ ∀ a ∈ fact.attributes, a.value ≠ "" := by
  rcases attributes_of_mem_extract h with ⟨a, hne, _, heq⟩ | ⟨thesis, hthesis, heq⟩
  · rw [heq]
    exact ⟨List.cons_ne_nil _ _, List.forall_mem_singleton.2 hne⟩
  · rw [heq]
    exact ⟨hthesis.filled_ne_nil, fun a ha => Attribute.value_ne_of_mem_filled ha⟩

theorem thesis_of_mem_extract (h : fact ∈ (extract (.ofLexicon lexicon) text).facts.toList)
    (hmem : kind ∈ fact.kinds) (hkind : kind ≠ .scientist ∧ kind ≠ .department) :
    ∃ thesis : Thesis, thesis.Complete (lexicon.tokenize text) ∧
      fact.attributes = Attribute.filled (thesisAttributes thesis) := by
  rcases attributes_of_mem_extract h with ⟨a, _, hsingle, heq⟩ | hthesis
  · rw [Fact.kinds, heq, List.map_singleton, List.mem_singleton] at hmem
    rw [← hmem] at hsingle
    rcases hsingle with hscientist | hdepartment
    · exact absurd hscientist hkind.1
    · exact absurd hdepartment hkind.2
  · exact hthesis

theorem speciality_mem_of_mem_extract
    (h : fact ∈ (extract (.ofLexicon lexicon) text).facts.toList)
    (hmem : .academicDegree ∈ fact.kinds) : .speciality ∈ fact.kinds := by
  obtain ⟨thesis, hthesis, heq⟩ := thesis_of_mem_extract h hmem (by decide)
  rw [Fact.kinds, heq] at hmem ⊢
  exact hthesis.speciality_mem hmem

theorem kinds_of_mem_extract (hentries : ∀ entry ∈ lexicon.entries, entry.normal ≠ "")
    (h : fact ∈ (extract (.ofLexicon lexicon) text).facts.toList)
    (hmem : .thesis ∈ fact.kinds) :
    fact.kinds ∈ [[.thesis], [.thesis, .speciality],
      [.thesis, .speciality, .academicDegree, .branchOfScience]] := by
  obtain ⟨thesis, hthesis, heq⟩ := thesis_of_mem_extract h hmem (by decide)
  rw [Fact.kinds, heq, hthesis.filled_eq_self fun _ => Lexicon.normal_ne_empty hentries]
  exact hthesis.kinds

end

/-- The facts of a text are one scientist if the name found first has a first part, one department
for each match of the department rule and one thesis for each match of the thesis rule. -/
theorem extract_facts (lexicon : Lexicon) (text : String) :
    let tokens := lexicon.tokenize text
    let name := firstPersonName tokens
    let departments := factsOf Department Department.rule tokens
    let theses := factsOf Thesis Thesis.rule tokens
    let facts := (extract (.ofLexicon lexicon) text).facts.toList
    name.map .ok = (Grammar.empty.findAll PersonName.rule tokens).head?.map
        (·.interpret PersonName) ∧
      departments.map .ok =
        (grammar.findAll Department.rule tokens).map (·.interpret Department) ∧
      theses.map .ok = (grammar.findAll Thesis.rule tokens).map (·.interpret Thesis) ∧
      facts = Fact.numbered 1 (factGroups name departments theses) ∧
      (∀ fact ∈ facts, fact.attributes ≠ [] ∧ ∀ a ∈ fact.attributes, a.value ≠ "") ∧
      (∀ fact ∈ facts, .academicDegree ∈ fact.kinds → .speciality ∈ fact.kinds) ∧
      (∀ thesis ∈ theses, ∀ a ∈ thesis.statements,
        a ∉ Attribute.filled thesis.statements → a.kind = .branchOfScience) ∧
      ((∀ entry ∈ lexicon.entries, entry.normal ≠ "") →
        ∀ fact ∈ facts, .thesis ∈ fact.kinds →
          fact.kinds ∈ [[.thesis], [.thesis, .speciality],
            [.thesis, .speciality, .academicDegree, .branchOfScience]]) := by
  intro tokens name departments theses facts
  refine ⟨map_firstPersonName tokens, map_factsOf yields_department tokens,
    map_factsOf yields_thesis tokens, toList_extract lexicon text, fun _ => filled_of_mem_extract,
    fun _ => speciality_mem_of_mem_extract, fun thesis hthesis a ha hout => ?_,
    fun hentries _ => kinds_of_mem_extract hentries⟩
  have hcomplete : thesis.Complete tokens := complete_of_mem hthesis fun _ => Lexicon.text_ne_empty
  rw [← thesisAttributes_eq] at ha hout
  by_cases hkind : a.kind = .branchOfScience
  · exact hkind
  · exact absurd (hcomplete.mem_filled ha hkind) hout

theorem extract_facts_builtin :
    (∀ entry ∈ Lexicon.builtin.entries, entry.normal ≠ "") ∧
      ∀ fact ∈ (extract (.ofLexicon .builtin) "Диссертация «Ряды»").facts.toList,
        .thesis ∈ fact.kinds → fact.kinds ∈ [[.thesis], [.thesis, .speciality],
          [.thesis, .speciality, .academicDegree, .branchOfScience]] := by
  have hentries : ∀ entry ∈ Lexicon.builtin.entries, entry.normal ≠ "" := by decide +kernel
  obtain ⟨_, _, _, _, _, _, _, hkinds⟩ := extract_facts .builtin "Диссертация «Ряды»"
  exact ⟨hentries, hkinds hentries⟩

end FactGrammar.Academic
