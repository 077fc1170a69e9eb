namespace FactGrammar

inductive FactKind where
  | scientist
  | department
  | thesis
  | speciality
  | academicDegree
  | branchOfScience
  deriving DecidableEq, Inhabited, Repr

namespace FactKind

def all : List FactKind :=
  [scientist, department, thesis, speciality, academicDegree, branchOfScience]

def name : FactKind → String
  | scientist => "Scientist"
  | department => "Department"
  | thesis => "Thesis"
  | speciality => "Speciality"
  | academicDegree => "AcademicDegree"
  | branchOfScience => "BranchOfScience"

def ofName? (name : String) : Option FactKind :=
  all.find? (·.name == name)

theorem ofName_name (kind : FactKind) : ofName? kind.name = some kind := by
  cases kind <;> rfl

end FactKind

/-- A value and what it is. -/
structure Attribute where
  kind : FactKind
  value : String
  deriving DecidableEq, Inhabited, Repr

/-- Values found together, under a number. -/
structure Fact where
  id : Nat
  attributes : List Attribute
  deriving DecidableEq, Inhabited, Repr

/-- Facts in the order in which they were found. -/
structure FactCollection where
  facts : Array Fact
  deriving DecidableEq, Inhabited, Repr

namespace FactCollection

def empty : FactCollection := ⟨#[]⟩

def size (collection : FactCollection) : Nat :=
  collection.facts.size

def isEmpty (collection : FactCollection) : Bool :=
  collection.facts.isEmpty

/-- Adds one fact with the values that are not empty, and gives its number. Without such a value
nothing is added. -/
def add (collection : FactCollection) (attributes : List Attribute) :
    FactCollection × Option Nat :=
  match attributes.filter (!·.value.isEmpty) with
  | [] => (collection, none)
  | kept =>
    let id := collection.size + 1
    (⟨collection.facts.push ⟨id, kept⟩⟩, some id)

def addOne (collection : FactCollection) (kind : FactKind) (value : String) :
    FactCollection × Option Nat :=
  collection.add [⟨kind, value⟩]

end FactCollection

end FactGrammar
