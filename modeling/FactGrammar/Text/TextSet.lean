namespace FactGrammar.Text

/-- Puts a text into its place in an increasing list, unless it is there. -/
def insertSorted (s : String) : List String → List String
  | [] => [s]
  | t :: rest =>
    if s < t then s :: t :: rest
    else if s = t then t :: rest
    else t :: insertSorted s rest

theorem mem_insertSorted {s x : String} {texts : List String} :
    x ∈ insertSorted s texts ↔ x = s ∨ x ∈ texts := by
  induction texts with
  | nil => simp [insertSorted]
  | cons t rest ih => grind [insertSorted]

theorem pairwise_insertSorted {s : String} {texts : List String}
    (h : texts.Pairwise (· < ·)) : (insertSorted s texts).Pairwise (· < ·) := by
  induction texts with
  | nil => simp [insertSorted]
  | cons t rest ih =>
    obtain ⟨ht, hrest⟩ := List.pairwise_cons.1 h
    rw [insertSorted]
    split
    · rename_i hst
      refine List.pairwise_cons.2 ⟨fun x hx => ?_, h⟩
      rcases List.mem_cons.1 hx with rfl | hx
      · exact hst
      · exact String.lt_trans hst (ht x hx)
    · rename_i hst
      split
      · exact h
      · rename_i hne
        have hts : t < s := Std.lt_of_le_of_ne (String.not_lt.1 hst) (Ne.symm hne)
        refine List.pairwise_cons.2 ⟨fun x hx => ?_, ih hrest⟩
        rcases mem_insertSorted.1 hx with rfl | hx
        · exact hts
        · exact ht x hx

/-- A set of texts, listed in increasing order of their code points. -/
structure TextSet where
  toList : List String
  increasing : toList.Pairwise (· < ·)

namespace TextSet

def empty : TextSet := ⟨[], .nil⟩

instance : Inhabited TextSet := ⟨empty⟩

def insert (set : TextSet) (s : String) : TextSet :=
  ⟨insertSorted s set.toList, pairwise_insertSorted set.increasing⟩

def ofList (texts : List String) : TextSet :=
  texts.foldl insert empty

def contains (set : TextSet) (s : String) : Bool :=
  set.toList.contains s

instance : Membership String TextSet := ⟨fun set s => s ∈ set.toList⟩

instance (s : String) (set : TextSet) : Decidable (s ∈ set) :=
  inferInstanceAs (Decidable (s ∈ set.toList))

theorem mem_insert {set : TextSet} {s x : String} : x ∈ set.insert s ↔ x = s ∨ x ∈ set :=
  mem_insertSorted

theorem mem_ofList {texts : List String} {x : String} : x ∈ ofList texts ↔ x ∈ texts := by
  have hfold : ∀ set : TextSet, x ∈ texts.foldl insert set ↔ x ∈ texts ∨ x ∈ set := by
    induction texts with
    | nil => simp
    | cons s rest ih =>
      intro set
      rw [List.foldl_cons, ih, mem_insert, List.mem_cons]
      exact or_left_comm.trans or_assoc.symm
  rw [ofList, hfold]
  exact or_iff_left (List.not_mem_nil)

theorem contains_iff_mem {set : TextSet} {s : String} : set.contains s ↔ s ∈ set :=
  List.contains_iff_mem

theorem contains_ofList (texts : List String) (s : String) :
    (ofList texts).contains s = texts.contains s := by
  rw [Bool.eq_iff_iff, contains_iff_mem, mem_ofList, List.contains_iff_mem]

instance : DecidableEq TextSet := fun a b =>
  decidable_of_iff (a.toList = b.toList) ⟨fun h => by cases a; cases b; cases h; rfl, congrArg _⟩

end TextSet

end FactGrammar.Text
