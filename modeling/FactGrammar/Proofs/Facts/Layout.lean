import FactGrammar.Proofs.Facts.Markup

namespace FactGrammar

namespace Xml

def factLayout (fact : Fact) : List (Nat × Tag) :=
  let id := toString fact.id
  [(3, .opening "Fact" [("FactID", id), ("LeadID", id)])] ++
    fact.attributes.map (fun a => (4, .empty a.kind.name [("val", a.value)])) ++
    [(3, .closing "Fact")]

def factsLayout (collection : FactCollection) : List (Nat × Tag) :=
  if collection.isEmpty then [(2, .empty "facts" [])]
  else [(2, .opening "facts" [])] ++ collection.facts.toList.flatMap factLayout ++
    [(2, .closing "facts")]

/-- The tags of a document, each with its level. -/
def layout (collection : FactCollection) (url : String) : List (Nat × Tag) :=
  [(0, .declaration [("version", "1.0"), ("encoding", "UTF-8")]), (0, .opening "fdo_objects" []),
    (1, .opening "document" [("url", url), ("date", "")])] ++ factsLayout collection ++
    [(1, .closing "document"), (0, .closing "fdo_objects")]

def indentation (level : Nat) : List Char :=
  List.replicate (2 * level) ' '

def lineChars (l : Nat × Tag) : List Char :=
  indentation l.1 ++ l.2.chars

/-- The tags with the blanks that stand before them. -/
def spaced : List (Nat × Tag) → List (List Char × Tag)
  | [] => []
  | first :: rest =>
    (indentation first.1, first.2) :: rest.map fun l => ('\n' :: indentation l.1, l.2)

theorem toList_line (level : Nat) (content : String) :
    (line level content).toList = indentation level ++ content.toList := by
  rw [line, String.toList_append, String.toList_ofList]
  rfl

theorem toList_factLines (fact : Fact) :
    (factLines fact).map String.toList = (factLayout fact).map lineChars := by
  have hvalue (a : Attribute) : (valueLine a).toList =
      lineChars (4, .empty a.kind.name [("val", a.value)]) := by
    rw [valueLine, toList_line]
    simp [lineChars, Tag.chars, attributeChars]
  have hopening (id : String) :
      ("<Fact" ++ attributeText "FactID" id ++ attributeText "LeadID" id ++ ">").toList =
        Tag.chars (.opening "Fact" [("FactID", id), ("LeadID", id)]) := by
    simp [Tag.chars, attributeChars]
  have hclosing : "</Fact>".toList = Tag.chars (.closing "Fact") := rfl
  simp only [factLines, factLayout, List.map_append, List.map_cons, List.map_nil, List.map_map,
    toList_line, hopening, hclosing, Function.comp_def, hvalue]
  rfl

theorem toList_factsLines (collection : FactCollection) :
    (factsLines collection).map String.toList = (factsLayout collection).map lineChars := by
  rw [factsLines, factsLayout]
  split
  · rw [List.map_singleton, toList_line]
    rfl
  · have hflat : (collection.facts.toList.flatMap factLines).map String.toList =
        (collection.facts.toList.flatMap factLayout).map lineChars := by
      simp only [List.map_flatMap, toList_factLines]
    rw [List.map_append, List.map_append, hflat, List.map_append, List.map_append,
      List.map_singleton, List.map_singleton, toList_line, toList_line]
    rfl

theorem intercalate_lineChars (ls : List (Nat × Tag)) :
    ['\n'].intercalate (ls.map lineChars) = (spaced ls).flatMap fun l => l.1 ++ l.2.chars := by
  cases ls with
  | nil => rfl
  | cons first rest =>
    rw [spaced, List.flatMap_cons, List.flatMap_map]
    induction rest generalizing first with
    | nil => rfl
    | cons second rest ih =>
      rw [List.map_cons, List.map_cons, List.intercalate_cons_cons, ← List.map_cons, ih second]
      simp only [List.flatMap_cons, lineChars, List.append_assoc, List.cons_append,
        List.nil_append]

theorem toList_toXml (collection : FactCollection) (url : String) :
    (collection.toXml url).toList =
      (spaced (layout collection url)).flatMap fun l => l.1 ++ l.2.chars := by
  have hdocument :
      ("<document" ++ attributeText "url" url ++ attributeText "date" "" ++ ">").toList =
        Tag.chars (.opening "document" [("url", url), ("date", "")]) := by
    simp [Tag.chars, attributeChars]
  have hdeclaration : "<?xml version=\"1.0\" encoding=\"UTF-8\"?>".toList =
      lineChars (0, .declaration [("version", "1.0"), ("encoding", "UTF-8")]) := by
    decide +kernel
  have hroot : "<fdo_objects>".toList = lineChars (0, .opening "fdo_objects" []) := rfl
  have hend : "</fdo_objects>".toList = lineChars (0, .closing "fdo_objects") := rfl
  have hclosing : "</document>".toList = Tag.chars (.closing "document") := rfl
  have hnewline : "\n".toList = ['\n'] := rfl
  rw [← intercalate_lineChars, FactCollection.toXml, String.toList_intercalate, hnewline]
  apply congrArg
  simp only [layout, List.map_append, List.map_cons, List.map_nil, toList_line, toList_factsLines,
    hdeclaration, hroot, hdocument, hclosing, hend]
  rfl

theorem isBlank_of_mem_spaced (ls : List (Nat × Tag)) :
    ∀ l ∈ spaced ls, ∀ c ∈ l.1, isBlank c = true := by
  have hindentation (level : Nat) : ∀ c ∈ indentation level, isBlank c = true := by
    intro c hc
    rw [(List.mem_replicate.1 hc).2]
    rfl
  cases ls with
  | nil => exact nofun
  | cons first rest =>
    rw [spaced, List.forall_mem_cons, List.forall_mem_map]
    refine ⟨hindentation first.1, ?_⟩
    intro l _
    exact List.forall_mem_cons.2 ⟨rfl, hindentation l.1⟩

theorem map_spaced (f : Tag → α) (ls : List (Nat × Tag)) :
    (spaced ls).map (fun l => f l.2) = ls.map fun l => f l.2 := by
  cases ls with
  | nil => rfl
  | cons first rest =>
    rw [spaced, List.map_cons, List.map_cons, List.map_map]
    rfl

theorem isName_kind (kind : FactKind) : IsName kind.name := by
  cases kind with
  | scientist => decide
  | department => decide
  | thesis => decide
  | speciality => decide
  | academicDegree => decide
  | branchOfScience => decide

theorem named_factLayout (fact : Fact) : ∀ l ∈ factLayout fact, l.2.Named := by
  have hopening : ∀ name ∈ ["Fact", "FactID", "LeadID"], IsName name := by decide
  have hval : ∀ name ∈ ["val"], IsName name := by decide
  have hclosing : ∀ name ∈ ["Fact"], IsName name := by decide
  rw [factLayout]
  simp only [List.forall_mem_append, List.forall_mem_singleton, List.forall_mem_map]
  refine ⟨⟨hopening, ?_⟩, hclosing⟩
  intro a _
  exact List.forall_mem_cons.2 ⟨isName_kind a.kind, hval⟩

theorem named_layout (collection : FactCollection) (url : String) :
    ∀ l ∈ layout collection url, l.2.Named := by
  have hdeclaration : ∀ name ∈ ["version", "encoding"], IsName name := by decide
  have hroot : ∀ name ∈ ["fdo_objects"], IsName name := by decide
  have hdocument : ∀ name ∈ ["document", "url", "date"], IsName name := by decide
  have hclosing : ∀ name ∈ ["document"], IsName name := by decide
  have hfacts : ∀ name ∈ ["facts"], IsName name := by decide
  have hall : ∀ l ∈ factsLayout collection, l.2.Named := by
    rw [factsLayout]
    split
    · exact List.forall_mem_singleton.2 hfacts
    · simp only [List.forall_mem_append, List.forall_mem_singleton]
      refine ⟨⟨hfacts, ?_⟩, hfacts⟩
      intro l hl
      obtain ⟨fact, _, hl⟩ := List.mem_flatMap.1 hl
      exact named_factLayout fact l hl
  rw [layout]
  simp only [List.forall_mem_append, List.forall_mem_cons, List.not_mem_nil, false_implies,
    implies_true, and_true]
  exact ⟨⟨⟨hdeclaration, hroot, hdocument⟩, hall⟩, hclosing, hroot⟩

theorem named_spaced (collection : FactCollection) (url : String) :
    ∀ l ∈ spaced (layout collection url), l.2.Named := by
  have hnamed := named_layout collection url
  intro l hl
  have hmem : l.2 ∈ (spaced (layout collection url)).map fun l => id l.2 :=
    List.mem_map_of_mem hl
  rw [map_spaced] at hmem
  obtain ⟨l', hl', htag⟩ := List.mem_map.1 hmem
  rw [← htag]
  exact hnamed l' hl'

/-- The tags of a document are those of the collection, whatever characters the values hold. -/
theorem readTags_toXml (collection : FactCollection) (url : String) :
    readTags (collection.toXml url) =
      some ((layout collection url).map fun l => l.2.allowed) := by
  rw [readTags_eq (isBlank_of_mem_spaced _) (named_spaced collection url)
    (toList_toXml collection url), map_spaced]

theorem isXmlChar_of_mem_toXml (collection : FactCollection) (url : String) :
    IsXmlText (collection.toXml url) := by
  have hblank {c : Char} (h : isBlank c = true) : IsXmlChar c := by
    simp only [isBlank, Bool.or_eq_true, beq_iff_eq] at h
    rcases h with ((rfl | rfl) | rfl) | rfl
    all_goals decide
  intro c hc
  rw [toList_toXml] at hc
  obtain ⟨l, hl, hc⟩ := List.mem_flatMap.1 hc
  rcases List.mem_append.1 hc with hc | hc
  · exact hblank (isBlank_of_mem_spaced _ l hl c hc)
  · exact (named_spaced collection url l hl).isXmlChar c hc

end Xml

end FactGrammar
