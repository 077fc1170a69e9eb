import FactGrammar.Proofs.Facts.Collection

namespace FactGrammar

theorem Attribute.filled_eq_filter (attributes : List Attribute) :
    filled attributes = attributes.filter (·.value ≠ "") := by
  refine List.filter_congr fun a _ => ?_
  rw [Bool.eq_iff_iff, Bool.not_eq_true', String.isEmpty_eq_false_iff, decide_eq_true_iff]

theorem Attribute.filled_eq_nil_iff {attributes : List Attribute} :
    filled attributes = [] ↔ ∀ a ∈ attributes, a.value = "" := by
  simp only [filled_eq_filter, List.filter_eq_nil_iff, decide_eq_true_iff, ne_eq,
    Decidable.not_not]

/-- What is added to a collection at once. -/
inductive Addition where
  | one (kind : FactKind) (value : String)
  | group (attributes : List Attribute)

namespace Addition

def attributes : Addition → List Attribute
  | one kind value => [⟨kind, value⟩]
  | group attributes => attributes

/-- Adds to a collection, and gives the number of the new fact if there is one. -/
def perform (collection : FactCollection) : Addition → FactCollection × Option Nat
  | one kind value => collection.addOne kind value
  | group attributes => collection.add attributes

theorem perform_eq_add (collection : FactCollection) (addition : Addition) :
    addition.perform collection = collection.add addition.attributes := by
  cases addition <;> rfl

/-- What an addition makes of an earlier collection, and the number that it gives. -/
structure Records (addition : Addition) (earlier later : FactCollection) (id : Option Nat) :
    Prop where
  /-- If a value is not empty, there is one more fact, of just these values, under the number. -/
  adds : (∃ a ∈ addition.attributes, a.value ≠ "") →
    ∃ fact : Fact, later.facts.toList = earlier.facts.toList ++ [fact] ∧
      fact.attributes = addition.attributes.filter (·.value ≠ "") ∧ id = some fact.id
  /-- If all values are empty, everything stays as it is. -/
  keeps : (∀ a ∈ addition.attributes, a.value = "") → later = earlier ∧ id = none

theorem records_perform (collection : FactCollection) (addition : Addition) :
    addition.Records collection (addition.perform collection).1
      (addition.perform collection).2 where
  adds := by
    rintro ⟨a, ha, hvalue⟩
    have hfilled : Attribute.filled addition.attributes ≠ [] := fun hnil =>
      hvalue (Attribute.filled_eq_nil_iff.1 hnil a ha)
    rw [perform_eq_add, FactCollection.add_of_filled_ne_nil hfilled]
    exact ⟨⟨_, _⟩, Array.toList_push, Attribute.filled_eq_filter _, rfl⟩
  keeps hempty := by
    rw [perform_eq_add, FactCollection.add_of_filled_eq_nil (Attribute.filled_eq_nil_iff.2 hempty)]
    exact ⟨rfl, rfl⟩

end Addition

namespace FactCollection

variable {collection : FactCollection}

/-- Facts are numbered by their places, each has a value, and no value is empty. -/
structure Numbered (collection : FactCollection) : Prop where
  ids : collection.facts.toList.map (·.id) = List.range' 1 collection.size
  nonempty : ∀ fact ∈ collection.facts.toList, fact.attributes ≠ []
  filled : ∀ fact ∈ collection.facts.toList, ∀ a ∈ fact.attributes, a.value ≠ ""

theorem size_push (collection : FactCollection) (fact : Fact) :
    (FactCollection.mk (collection.facts.push fact)).size = collection.size + 1 :=
  Array.size_push fact

theorem numbered_empty : empty.Numbered where
  ids := rfl
  nonempty := List.forall_mem_nil _
  filled := List.forall_mem_nil _

theorem Numbered.perform (h : collection.Numbered) (addition : Addition) :
    (addition.perform collection).1.Numbered := by
  rw [Addition.perform_eq_add]
  by_cases hfilled : Attribute.filled addition.attributes = []
  · rw [add_of_filled_eq_nil hfilled]
    exact h
  · rw [add_of_filled_ne_nil hfilled]
    constructor
    · rw [size_push, Array.toList_push, List.map_append, h.ids, List.range'_1_concat,
        Nat.add_comm 1]
      rfl
    · rw [Array.toList_push, List.forall_mem_append, List.forall_mem_singleton]
      exact ⟨h.nonempty, hfilled⟩
    · rw [Array.toList_push, List.forall_mem_append, List.forall_mem_singleton]
      exact ⟨h.filled, fun a ha => Attribute.value_ne_of_mem_filled ha⟩

theorem prefix_perform (collection : FactCollection) (addition : Addition) :
    collection.facts.toList <+: (addition.perform collection).1.facts.toList := by
  rw [Addition.perform_eq_add]
  by_cases hfilled : Attribute.filled addition.attributes = []
  · exact ⟨[], by rw [add_of_filled_eq_nil hfilled, List.append_nil]⟩
  · rw [add_of_filled_ne_nil hfilled, Array.toList_push]
    exact List.prefix_append _ _

def performAll (collection : FactCollection) : List Addition → FactCollection × List (Option Nat)
  | [] => (collection, [])
  | addition :: rest =>
    let next := addition.perform collection
    let last := next.1.performAll rest
    (last.1, next.2 :: last.2)

theorem performAll_append (collection : FactCollection) (before behind : List Addition) :
    collection.performAll (before ++ behind) =
      let first := collection.performAll before
      let last := first.1.performAll behind
      (last.1, first.2 ++ last.2) := by
  induction before generalizing collection with
  | nil => rfl
  | cons addition rest ih => simp only [List.cons_append, performAll, ih]

theorem length_performAll (collection : FactCollection) (additions : List Addition) :
    (collection.performAll additions).2.length = additions.length := by
  induction additions generalizing collection with
  | nil => rfl
  | cons addition rest ih => simp only [performAll, List.length_cons, ih]

theorem Numbered.performAll (h : collection.Numbered) (additions : List Addition) :
    (collection.performAll additions).1.Numbered := by
  induction additions generalizing collection with
  | nil => exact h
  | cons addition rest ih => exact ih (h.perform addition)

theorem prefix_performAll (collection : FactCollection) (additions : List Addition) :
    collection.facts.toList <+: (collection.performAll additions).1.facts.toList := by
  induction additions generalizing collection with
  | nil => exact List.prefix_refl _
  | cons addition rest ih => exact (prefix_perform collection addition).trans (ih _)

/-- However a new collection is filled, its facts are numbered from 1 in their order and have
values, none of them empty. Each addition on the way adds one fact of its values that are not empty
and gives its number, or nothing if there is no such value, and no addition touches the facts before
it. -/
theorem additions_numbered :
    (∀ additions : List Addition, (empty.performAll additions).1.Numbered) ∧
      ∀ (before : List Addition) (addition : Addition) (behind : List Addition),
        let earlier := (empty.performAll before).1
        let later := (empty.performAll (before ++ [addition])).1
        let last := empty.performAll (before ++ addition :: behind)
        (∃ id, last.2[before.length]? = some id ∧ addition.Records earlier later id) ∧
          earlier.facts.toList <+: later.facts.toList ∧
          later.facts.toList <+: last.1.facts.toList := by
  refine ⟨numbered_empty.performAll, ?_⟩
  intro before addition behind earlier later last
  have hlater : later = (addition.perform earlier).1 :=
    congrArg Prod.fst (performAll_append empty before [addition])
  have hlast : last = _ := performAll_append empty before (addition :: behind)
  refine ⟨⟨(addition.perform earlier).2, ?_, ?_⟩, ?_, ?_⟩
  · rw [hlast, List.getElem?_append_right (Nat.le_of_eq (length_performAll empty before)),
      length_performAll, Nat.sub_self]
    rfl
  · rw [hlater]
    exact addition.records_perform earlier
  · rw [hlater]
    exact prefix_perform earlier addition
  · rw [hlater, hlast]
    exact prefix_performAll _ behind

/-- A group without a value that is not empty uses up no number. -/
example :
    (empty.performAll [.one .department "кафедра", .one .thesis "",
      .group [⟨.thesis, "Ряды"⟩, ⟨.speciality, ""⟩, ⟨.academicDegree, "доктор"⟩], .group [],
      .one .department "кафедра"]).2 = [some 1, none, some 2, none, some 3] := by
  decide

end FactCollection

end FactGrammar
