import FactGrammar.Facts.Collection

namespace FactGrammar

/-- The values of a group that are not empty. -/
def Attribute.filled (attributes : List Attribute) : List Attribute :=
  attributes.filter (!·.value.isEmpty)

/-- Groups of values as facts, numbered in their order from `first` on. -/
def Fact.numbered (first : Nat) (groups : List (List Attribute)) : List Fact :=
  groups.mapIdx fun i attributes => ⟨first + i, attributes⟩

theorem Attribute.filled_eq_self {attributes : List Attribute}
    (h : ∀ a ∈ attributes, a.value ≠ "") : filled attributes = attributes := by
  refine List.filter_eq_self.2 fun a ha => ?_
  rw [String.isEmpty_eq_false_iff.2 (h a ha)]
  rfl

theorem Attribute.value_ne_of_mem_filled {attributes : List Attribute}
    (h : a ∈ filled attributes) : a.value ≠ "" := by
  have hfilled := (List.mem_filter.1 h).2
  rw [Bool.not_eq_true'] at hfilled
  exact String.isEmpty_eq_false_iff.1 hfilled

theorem Attribute.mem_filled {attributes : List Attribute} (h : a ∈ attributes)
    (hvalue : a.value ≠ "") : a ∈ filled attributes := by
  refine List.mem_filter.2 ⟨h, ?_⟩
  rw [String.isEmpty_eq_false_iff.2 hvalue]
  rfl

theorem Attribute.filter_map_filled {groups : List (List Attribute)}
    (h : ∀ attributes ∈ groups, filled attributes ≠ []) :
    (groups.map filled).filter (!·.isEmpty) = groups.map filled := by
  refine List.filter_eq_self.2 fun kept hkept => ?_
  obtain ⟨attributes, hmem, rfl⟩ := List.mem_map.1 hkept
  rw [List.isEmpty_eq_false_iff.2 (h attributes hmem)]
  rfl

namespace Fact

def kinds (fact : Fact) : List FactKind :=
  fact.attributes.map (·.kind)

theorem numbered_cons (first : Nat) (attributes : List Attribute)
    (groups : List (List Attribute)) :
    numbered first (attributes :: groups) = ⟨first, attributes⟩ :: numbered (first + 1) groups := by
  rw [numbered, List.mapIdx_cons, numbered]
  simp only [Nat.add_zero, Nat.add_right_comm first, Nat.add_assoc first]

theorem attributes_mem_of_mem_numbered {fact : Fact} (h : fact ∈ numbered first groups) :
    fact.attributes ∈ groups := by
  obtain ⟨i, hi, rfl⟩ := List.mem_mapIdx.1 h
  exact List.getElem_mem hi

end Fact

namespace FactCollection

variable {collection : FactCollection} {attributes : List Attribute}

theorem add_of_filled_eq_nil (h : Attribute.filled attributes = []) :
    collection.add attributes = (collection, none) := by
  rw [Attribute.filled] at h
  rw [add, h]

theorem add_of_filled_ne_nil (h : Attribute.filled attributes ≠ []) :
    collection.add attributes =
      (⟨collection.facts.push ⟨collection.size + 1, Attribute.filled attributes⟩⟩,
        some (collection.size + 1)) := by
  rw [add]
  split
  · exact absurd ‹_› h
  · rfl

theorem toList_foldl_add (collection : FactCollection) (groups : List (List Attribute)) :
    (groups.foldl (fun facts group => (facts.add group).1) collection).facts.toList =
      collection.facts.toList ++ Fact.numbered (collection.size + 1)
        ((groups.map Attribute.filled).filter (!·.isEmpty)) := by
  induction groups generalizing collection with
  | nil => exact (List.append_nil _).symm
  | cons group groups ih =>
    rw [List.foldl_cons, ih, List.map_cons]
    by_cases h : Attribute.filled group = []
    · rw [add_of_filled_eq_nil h, h, List.filter_cons_of_neg (by simp)]
    · rw [add_of_filled_ne_nil h, List.filter_cons_of_pos (by simpa using h), Fact.numbered_cons]
      simp only [size, Array.toList_push, Array.size_push, List.append_assoc, List.cons_append,
        List.nil_append]

end FactCollection

end FactGrammar
