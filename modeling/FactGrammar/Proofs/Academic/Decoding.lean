import FactGrammar.Academic.Extraction
import FactGrammar.Proofs.Academic.Departments
import FactGrammar.Proofs.Academic.Names
import FactGrammar.Proofs.Academic.Theses
import FactGrammar.Proofs.Matching.Search

namespace FactGrammar

/-- Every match of a rule is read as a fact of a type. -/
def Grammar.Yields (grammar : Grammar) (rule : Rule) (α : Type) [FactType α] : Prop :=
  ∀ tokens start m, grammar.matchAt rule tokens start = some m →
    ∃ value, m.interpret α = .ok value

theorem Grammar.Yields.of_layout [FactType α] {grammar : Grammar}
    {located : List Token → Nat → β → Prop} {value : List Token → β → α}
    (h : ∀ {tokens start m}, grammar.matchAt rule tokens start = some m →
      ∃ layout, located tokens start layout ∧ m.interpret α = .ok (value tokens layout)) :
    grammar.Yields rule α := by
  intro tokens start m hm
  obtain ⟨layout, _, hvalue⟩ := h hm
  exact ⟨value tokens layout, hvalue⟩

theorem Grammar.Yields.of_mem_findAll [FactType α] {grammar : Grammar}
    (h : grammar.Yields rule α) (hm : m ∈ grammar.findAll rule tokens) :
    ∃ value, m.interpret α = .ok value :=
  h tokens m.span.start m ((grammar.findFrom_leftmost rule tokens 0).isMatch m hm)

theorem map_filterMap_toOption {f : α → Except ε β} {xs : List α}
    (h : ∀ x ∈ xs, ∃ value, f x = .ok value) :
    (xs.filterMap fun x => (f x).toOption).map .ok = xs.map f := by
  induction xs with
  | nil => rfl
  | cons x xs ih =>
    obtain ⟨value, hvalue⟩ := h x List.mem_cons_self
    have hrest := ih fun y hy => h y (List.mem_cons_of_mem x hy)
    rw [List.filterMap_cons, hvalue, List.map_cons, hvalue, ← hrest]
    rfl

namespace Academic

theorem yields_department : grammar.Yields Department.rule Department :=
  .of_layout Department.interpret_of_matchAt

theorem yields_thesis : grammar.Yields Thesis.rule Thesis :=
  .of_layout Thesis.interpret_of_matchAt

theorem yields_speciality : grammar.Yields (.reference "speciality") Speciality :=
  .of_layout Speciality.interpret_of_matchAt

theorem yields_academicDegree : grammar.Yields (.reference "academic_degree") AcademicDegree :=
  .of_layout AcademicDegree.interpret_of_matchAt

theorem yields_personName (grammar : Grammar) : grammar.Yields PersonName.rule PersonName :=
  .of_layout PersonName.interpret_of_matchAt

theorem map_factsOf [FactType α] (h : grammar.Yields rule α) (tokens : List Token) :
    (factsOf α rule tokens).map .ok = (grammar.findAll rule tokens).map (·.interpret α) :=
  map_filterMap_toOption fun _ hm => h.of_mem_findAll hm

theorem map_firstPersonName (tokens : List Token) :
    (firstPersonName tokens).map .ok =
      (Grammar.empty.findAll PersonName.rule tokens).head?.map (·.interpret PersonName) := by
  rw [firstPersonName]
  cases hfound : Grammar.empty.findAll PersonName.rule tokens with
  | nil => rfl
  | cons m rest =>
    have hm : m ∈ Grammar.empty.findAll PersonName.rule tokens := by
      rw [hfound]
      exact List.mem_cons_self
    obtain ⟨value, hvalue⟩ := (yields_personName .empty).of_mem_findAll hm
    dsimp only [List.head?_cons]
    rw [Option.map_some, hvalue]
    rfl

/-- The matches of the academic rules are facts, all of which are extracted, and the first match of
the rule for names is the name. -/
theorem matches_yield_facts :
    grammar.Yields Department.rule Department ∧ grammar.Yields Thesis.rule Thesis ∧
      grammar.Yields (.reference "speciality") Speciality ∧
      grammar.Yields (.reference "academic_degree") AcademicDegree ∧
      (∀ other : Grammar, other.Yields PersonName.rule PersonName) ∧
      ∀ tokens : List Token,
        (factsOf Department Department.rule tokens).map .ok =
          (grammar.findAll Department.rule tokens).map (·.interpret Department) ∧
        (factsOf Thesis Thesis.rule tokens).map .ok =
          (grammar.findAll Thesis.rule tokens).map (·.interpret Thesis) ∧
        (firstPersonName tokens).map .ok =
          (Grammar.empty.findAll PersonName.rule tokens).head?.map (·.interpret PersonName) :=
  ⟨yields_department, yields_thesis, yields_speciality, yields_academicDegree, yields_personName,
    fun tokens => ⟨map_factsOf yields_department tokens, map_factsOf yields_thesis tokens,
      map_firstPersonName tokens⟩⟩

/-- A title, a degree and a speciality with a code, in tokens whose texts do not go with their
other fields. -/
def defence : List Token :=
  [⟨0, 0, "w", .latin, none, "диссертация", .empty⟩, ⟨0, 0, "«", .other, none, "", .empty⟩,
    ⟨0, 0, "t", .russian, none, "", .empty⟩, ⟨0, 0, "»", .other, none, "", .empty⟩,
    ⟨9, 2, "Доктора", .latin, none, "доктор", .empty⟩, ⟨9, 2, "b", .latin, none, "", .empty⟩,
    ⟨0, 0, "наук", .latin, none, "", .empty⟩, ⟨0, 0, "по", .latin, none, "", .empty⟩,
    ⟨0, 0, "s", .latin, none, "специальность", .empty⟩, ⟨0, 0, "x", .integer, none, "", .empty⟩,
    ⟨0, 0, ".", .other, none, "", .empty⟩, ⟨0, 0, "y", .integer, none, "", .empty⟩,
    ⟨0, 0, ".", .latin, none, "", .empty⟩, ⟨0, 0, "z", .integer, none, "", .empty⟩,
    ⟨0, 0, "n", .other, none, "", .empty⟩]

theorem locate_defence :
    Thesis.locate defence 0 = some ⟨⟨0, 0⟩, ⟨2, 3⟩, some ⟨some ⟨⟨4, 5⟩, ⟨5, 6⟩, ⟨6, 7⟩⟩,
      ⟨⟨9, 15⟩, some ⟨9, 14⟩, some ⟨14, 14⟩, ⟨14, 15⟩⟩⟩⟩ := by
  rfl

theorem matches_yield_facts_defence :
    ∃ m value, grammar.matchAt Thesis.rule defence 0 = some m ∧ m.span = ⟨0, 15⟩ ∧
      m.interpret Thesis = .ok value := by
  have hm := Grammar.matchAt_of_layout (Thesis.run_rule 254 0) (Nat.zero_le _) locate_defence
  obtain ⟨value, hvalue⟩ := matches_yield_facts.2.1 defence 0 _ hm
  exact ⟨_, value, hm, rfl, hvalue⟩

end Academic

end FactGrammar
