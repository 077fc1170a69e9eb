import FactGrammar.Academic.Department
import FactGrammar.Academic.PersonName
import FactGrammar.Academic.Thesis
import FactGrammar.Facts.Collection
import FactGrammar.Lexicon.Builtin
import FactGrammar.Matching.Interpretation
import FactGrammar.Pattern.Grammar

namespace FactGrammar.Academic

def grammar : Grammar :=
  .ofList [
    ("quote", quote),
    ("hyphen", hyphen),
    ("quoted", quoted),
    ("speciality", Speciality.rule),
    ("academic_degree", AcademicDegree.rule)]

/-- A way to cut a text into tokens and to find a name among them. -/
structure TokenSource where
  tokenize : String → List Token
  firstName : List Token → Option PersonName

def firstPersonName (tokens : List Token) : Option PersonName :=
  match Grammar.empty.findAll PersonName.rule tokens with
  | [] => none
  | m :: _ => (m.interpret PersonName).toOption

namespace TokenSource

def ofLexicon (lexicon : Lexicon) : TokenSource where
  tokenize := lexicon.tokenize
  firstName := firstPersonName

/-- The same tokens, with a name that is known beforehand. -/
def withName (source : TokenSource) (name : Option PersonName) : TokenSource :=
  { source with firstName := fun _ => name }

end TokenSource

/-- The builtin lexicon, with the entries of another one over it. -/
def extendedLexicon : Option Lexicon → Lexicon
  | none => .builtin
  | some extra => Lexicon.builtin.merge extra

/-- The values of a thesis, which make one fact. -/
def thesisAttributes (thesis : Thesis) : List Attribute :=
  [⟨.thesis, thesis.title⟩] ++
  (match thesis.speciality with
    | some speciality => [⟨.speciality, speciality.label⟩]
    | none => []) ++
  (match thesis.degree with
    | some degree => [⟨.academicDegree, degree.degree⟩, ⟨.branchOfScience, degree.branch.name⟩]
    | none => [])

def departmentAttributes (department : Department) : List Attribute :=
  [⟨.department, department.definition⟩]

/-- The values of a name, none unless a first part is known. -/
def nameAttributes (name : PersonName) : List Attribute :=
  match name.fullName with
  | some full => [⟨.scientist, full⟩]
  | none => []

/-- The facts of one type that a rule finds, in order. -/
def factsOf (α : Type) [FactType α] (rule : Rule) (tokens : List Token) : List α :=
  (grammar.findAll rule tokens).filterMap fun m => (m.interpret α).toOption

/-- The groups of values in some tokens, for a name that may have been found. -/
def attributeGroups (name : Option PersonName) (tokens : List Token) : List (List Attribute) :=
  name.toList.map nameAttributes ++
  (factsOf Department Department.rule tokens).map departmentAttributes ++
  (factsOf Thesis Thesis.rule tokens).map thesisAttributes

/-- The facts in a text: first the scientist, then the departments, then the theses, each in the
order of the text. -/
def extract (source : TokenSource) (text : String) : FactCollection :=
  let tokens := source.tokenize text
  (attributeGroups (source.firstName tokens) tokens).foldl (fun facts group => (facts.add group).1)
    .empty

end FactGrammar.Academic
