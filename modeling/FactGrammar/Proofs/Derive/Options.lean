import FactGrammar.Derive.Plan
import FactGrammar.Proofs.Outcome

namespace FactGrammar.Derive

namespace FactOption

def isNormalized : FactOption → Bool
  | word path => path.isWord "normalized"
  | _ => false

def name? : FactOption → Option String
  | assignment path value => if path.isWord "name" then value.value else none
  | _ => none

/-- What is wrong with an option of an item: it gives a name that is no string, or no name. -/
def nameDefect? (option : FactOption) : Option DeriveError :=
  match option with
  | assignment path value =>
    if path.isWord "name" then
      if value.value.isSome then none else some .nameNotString
    else some (.unknownOption option)
  | _ => some (.unknownOption option)

/-- What is wrong with an option of a field: it is not the one for normalized text. -/
def fieldDefect? (option : FactOption) : Option DeriveError :=
  if option.isNormalized then none else some (.unknownOption option)

end FactOption

namespace Attribute

/-- What is wrong with an attribute of a fact: it is not made like an option, or it is no list of
options. -/
def defect? (explain : Attribute → String) (a : Attribute) : Option DeriveError :=
  match a.option? with
  | none => some (.malformedAttribute (explain a))
  | some (.list ..) => none
  | some _ => some .noOptionList

def listed (a : Attribute) : List FactOption :=
  match a.option? with
  | some (.list _ options _) => options
  | _ => []

end Attribute

def attributeDefects (explain : Attribute → String) (attributes : List Attribute) :
    List DeriveError :=
  (attributes.filter Attribute.isFact).filterMap (Attribute.defect? explain)

/-- The options in the attributes of a fact, in order. -/
def listedOptions (attributes : List Attribute) : List FactOption :=
  (attributes.filter Attribute.isFact).flatMap Attribute.listed

theorem Attribute.options_eq_judge (explain : Attribute → String) (a : Attribute) :
    a.options explain = judge (a.defect? explain).toList a.listed := by
  rw [options, defect?, listed]
  cases a.option? with
  | none => rfl
  | some option =>
    cases option with
    | list _ _ _ => rfl
    | literal _ | word _ | assignment _ _ => rfl

/-- All attributes are read before any of their options is looked at. -/
theorem factOptions_eq_judge (explain : Attribute → String) (attributes : List Attribute) :
    factOptions explain attributes =
      judge (attributeDefects explain attributes) (listedOptions attributes) := by
  have hread : (attributes.filter Attribute.isFact).mapM (Attribute.options explain) =
      judge (attributeDefects explain attributes)
        ((attributes.filter Attribute.isFact).map Attribute.listed) := by
    rw [mapM_eq_judge (Attribute.options_eq_judge explain), attributeDefects,
      List.filterMap_eq_flatMap_toList]
  have hall : factOptions explain attributes = judge (attributeDefects explain attributes ++ [])
      ((attributes.filter Attribute.isFact).map Attribute.listed).flatten :=
    bind_eq_judge hread fun _ => rfl
  rwa [List.append_nil, ← List.flatMap_def] at hall

theorem eq_listedOptions {attributes : List Attribute}
    (h : factOptions explain attributes = .ok options) :
    options = listedOptions attributes := by
  rw [factOptions_eq_judge] at h
  cases hdefects : attributeDefects explain attributes with
  | nil =>
    rw [hdefects] at h
    cases h
    rfl
  | cons e rest =>
    rw [hdefects] at h
    cases h

theorem renamed_eq_judge (name : String) (option : FactOption) :
    renamed name option = judge option.nameDefect?.toList (option.name?.getD name) := by
  cases option with
  | literal _ | word _ | list _ _ _ => rfl
  | assignment path value =>
    rw [renamed, FactOption.nameDefect?, FactOption.name?]
    split
    · cases value.value with
      | none => rfl
      | some _ => rfl
    · rfl

theorem requireNormalized_eq_judge (option : FactOption) :
    requireNormalized option = judge option.fieldDefect?.toList () := by
  cases option with
  | literal _ | assignment _ _ | list _ _ _ => rfl
  | word path =>
    rw [requireNormalized, FactOption.fieldDefect?, FactOption.isNormalized]
    split
    · rfl
    · rfl

/-- Of several names the last one stays. -/
theorem foldl_name? (options : List FactOption) (name : String) :
    options.foldl (fun name option => option.name?.getD name) name =
      (options.filterMap FactOption.name?).getLast?.getD name := by
  induction options generalizing name with
  | nil => rfl
  | cons option rest ih =>
    rw [List.foldl_cons, ih, List.filterMap_cons]
    cases option.name? with
    | none => rfl
    | some given =>
      rw [List.getLast?_cons, Option.getD_some]
      rfl

/-- Where no option is refused, all of them are the one for normalized text. -/
theorem any_isNormalized {options : List FactOption}
    (h : options.filterMap FactOption.fieldDefect? = []) :
    options.any FactOption.isNormalized = !options.isEmpty := by
  cases options with
  | nil => rfl
  | cons option rest =>
    have hnone := List.filterMap_eq_nil_iff.1 h option List.mem_cons_self
    rw [FactOption.fieldDefect?] at hnone
    rw [List.any_cons, List.isEmpty_cons]
    split at hnone
    · rename_i hnormalized
      rw [hnormalized]
      rfl
    · cases hnone

end FactGrammar.Derive
