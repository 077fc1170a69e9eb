import FactGrammar.Lexicon.Basic

namespace FactGrammar

open Text

/-- Whether a form of the entry is the word but for its letter case. -/
def Entry.knows (entry : Entry) (word : String) : Bool :=
  entry.forms.any fun form => lowercase form == lowercase word

namespace Lexicon

variable {lexicon other : Lexicon} {entry : Entry} {added : List Entry}

theorem lookup_pointForms (target : Nat) (index : List (String × Nat)) (forms : List String)
    (key : String) :
    (pointForms target index forms).lookup key =
      if forms.any (fun form => lowercase form == key) then some target else index.lookup key := by
  induction forms generalizing index with
  | nil => rfl
  | cons form rest ih =>
    have hrest := ih ((lowercase form, target) :: index)
    rw [pointForms, List.foldl_cons, ← pointForms, hrest, List.any_cons, List.lookup_cons,
      BEq.comm (a := key)]
    cases lowercase form == key with
    | true => rw [Bool.true_or, if_pos rfl, ite_self]
    | false => rw [Bool.false_or]

theorem mem_pointForms {target : Nat} {index : List (String × Nat)} {forms : List String}
    (h : pointer ∈ pointForms target index forms) : pointer.2 = target ∨ pointer ∈ index := by
  induction forms generalizing index with
  | nil => exact .inr h
  | cons form rest ih =>
    rcases ih h with htarget | hindex
    · exact .inl htarget
    · rcases List.mem_cons.1 hindex with rfl | hindex
      · exact .inl rfl
      · exact .inr hindex

theorem insert_of_forms (lexicon : Lexicon) (h : entry.forms ≠ []) :
    lexicon.insert entry = .ok {
      entries := lexicon.entries.push entry
      index := pointForms lexicon.size lexicon.index entry.forms } := by
  rw [insert, if_neg (by rwa [List.isEmpty_iff])]

theorem insert_of_no_forms (lexicon : Lexicon) (h : entry.forms = []) :
    lexicon.insert entry = .error (.noForms entry.normal) := by
  rw [insert, if_pos (List.isEmpty_iff.2 h)]

/-- A lexicon that holds the entries that were added, one after the other, and finds the last of
those with the form that is asked for. -/
structure Records (lexicon : Lexicon) (added : List Entry) : Prop where
  entries_eq : lexicon.entries.toList = added
  forms_ne_nil : ∀ entry ∈ added, entry.forms ≠ []
  target_lt : ∀ pointer ∈ lexicon.index, pointer.2 < lexicon.size
  lookup_eq : ∀ word, lexicon.lookup word = added.findRev? (·.knows word)

namespace Records

theorem empty : Records .empty [] where
  entries_eq := rfl
  forms_ne_nil := List.forall_mem_nil _
  target_lt := List.forall_mem_nil _
  lookup_eq _ := rfl

theorem size_eq (h : lexicon.Records added) : lexicon.size = added.length := by
  rw [size, ← Array.length_toList, h.entries_eq]

/-- An entry with forms takes its forms over. The other forms lead where they did, because what
they point at is not touched. -/
theorem insert (h : lexicon.Records added) (hforms : entry.forms ≠ []) :
    (lexicon.insertOrKeep entry).Records (added ++ [entry]) := by
  have hinsert : lexicon.insertOrKeep entry =
      ⟨lexicon.entries.push entry, pointForms lexicon.size lexicon.index entry.forms⟩ := by
    rw [insertOrKeep, lexicon.insert_of_forms hforms]
  rw [hinsert]
  refine ⟨?_, ?_, ?_, ?_⟩
  · rw [Array.toList_push, h.entries_eq]
  · intro listed hlisted
    rcases List.mem_append.1 hlisted with hold | hnew
    · exact h.forms_ne_nil listed hold
    · rw [List.mem_singleton.1 hnew]
      exact hforms
  · intro pointer hpointer
    rw [size, Array.size_push, ← size]
    rcases mem_pointForms hpointer with htarget | hindex
    · exact Nat.lt_succ_of_le (Nat.le_of_eq htarget)
    · exact Nat.lt_succ_of_lt (h.target_lt pointer hindex)
  · intro word
    have hword := h.lookup_eq word
    rw [List.findRev?_eq_find?_reverse] at hword ⊢
    rw [List.reverse_append, List.reverse_singleton, List.singleton_append, List.find?_cons,
      ← hword, lookup, lookup, lookup_pointForms, Entry.knows]
    cases entry.forms.any fun form => lowercase form == lowercase word with
    | true => exact Array.getElem?_push_size
    | false =>
      rw [if_neg Bool.false_ne_true]
      cases hindex : lexicon.index.lookup (lowercase word) with
      | none => rfl
      | some target =>
        obtain ⟨before, behind, hsplit, _⟩ := List.lookup_eq_some_iff.1 hindex
        have hlt : target < lexicon.entries.size := by
          apply h.target_lt (lowercase word, target)
          rw [hsplit]
          exact List.mem_append_right _ List.mem_cons_self
        exact (Array.getElem?_push_lt hlt).trans (Array.getElem?_eq_getElem hlt).symm

theorem insertAll {others : List Entry} (h : lexicon.Records added)
    (hothers : ∀ entry ∈ others, entry.forms ≠ []) :
    (others.foldl insertOrKeep lexicon).Records (added ++ others) := by
  induction others generalizing lexicon added with
  | nil =>
    rw [List.append_nil]
    exact h
  | cons entry rest ih =>
    obtain ⟨hentry, hrest⟩ := List.forall_mem_cons.1 hothers
    have hnext := ih (h.insert hentry) hrest
    rw [List.append_assoc] at hnext
    exact hnext

theorem merge {others : List Entry} (h : lexicon.Records added) (hother : other.Records others) :
    (lexicon.merge other).Records (added ++ others) := by
  rw [Lexicon.merge, ← Array.foldl_toList, hother.entries_eq]
  exact h.insertAll hother.forms_ne_nil

end Records

end Lexicon

/-- How a lexicon came about: from nothing, by an entry that was handed to another one, or by taking
in the entries of a second one. -/
inductive Lexicon.History where
  | new
  | insert (before : History) (entry : Entry)
  | merge (before other : History)

namespace Lexicon.History

def lexicon : History → Lexicon
  | new => .empty
  | insert before entry => before.lexicon.insertOrKeep entry
  | merge before other => before.lexicon.merge other.lexicon

/-- The entries that were added with success, in order. -/
def added : History → List Entry
  | new => []
  | insert before entry =>
    match before.lexicon.insert entry with
    | .ok _ => before.added ++ [entry]
    | .error _ => before.added
  | merge before other => before.added ++ other.added

theorem insert_of_no_forms (history : History) {entry : Entry} (h : entry.forms = []) :
    (history.insert entry).lexicon = history.lexicon ∧
      (history.insert entry).added = history.added := by
  rw [lexicon, added, insertOrKeep, history.lexicon.insert_of_no_forms h]
  exact ⟨rfl, rfl⟩

theorem records (history : History) : history.lexicon.Records history.added := by
  induction history with
  | new => exact .empty
  | insert before entry ih =>
    by_cases hforms : entry.forms = []
    · obtain ⟨hlexicon, hadded⟩ := before.insert_of_no_forms hforms
      rw [hlexicon, hadded]
      exact ih
    · rw [added, before.lexicon.insert_of_forms hforms]
      exact ih.insert hforms
  | merge before other ih ihOther => exact ih.merge ihOther

/-- However a lexicon came about, its index points at entries that are there, and it finds the last
of the added entries that has the word among its forms. An entry without forms is refused and
changes nothing. -/
theorem lookup_last_added (history : History) :
    (∀ pointer ∈ history.lexicon.index, pointer.2 < history.lexicon.size) ∧
      (∀ word, history.lexicon.lookup word = history.added.findRev? (·.knows word)) ∧
      history.lexicon.size = history.added.length ∧
      ∀ entry : Entry,
        (entry.forms ≠ [] →
          history.lexicon.insert entry = .ok (history.insert entry).lexicon) ∧
        (entry.forms = [] →
          history.lexicon.insert entry = .error (.noForms entry.normal) ∧
            (history.insert entry).lexicon.size = history.lexicon.size ∧
            ∀ word,
              (history.insert entry).lexicon.lookup word = history.lexicon.lookup word) := by
  have hrecords := history.records
  refine ⟨hrecords.target_lt, hrecords.lookup_eq, hrecords.size_eq, ?_⟩
  intro entry
  refine ⟨?_, ?_⟩
  · intro hforms
    rw [lexicon, insertOrKeep, history.lexicon.insert_of_forms hforms]
  · intro hforms
    obtain ⟨hsame, _⟩ := history.insert_of_no_forms hforms
    rw [hsame]
    exact ⟨history.lexicon.insert_of_no_forms hforms, rfl, fun _ => rfl⟩

def overridden : History :=
  .merge
    (.insert (.insert .new ⟨["шульги"], "шульга", none, .empty⟩) ⟨[], "пусто", none, .empty⟩)
    (.insert (.insert .new ⟨["Шульги", "ШУЛЬГИ"], "шульгин", none, .empty⟩)
      ⟨["отдел", "шульги"], "шульг", none, .empty⟩)

theorem lookup_last_added_overridden :
    ("шульги", 2) ∈ overridden.lexicon.index ∧ 2 < overridden.lexicon.size ∧
      overridden.lexicon.size = 3 ∧
      overridden.lexicon.lookup "ШУЛЬГИ" = some ⟨["отдел", "шульги"], "шульг", none, .empty⟩ ∧
      overridden.lexicon.lookup "отделу" = none ∧
      overridden.lexicon.insert ⟨[], "пусто", none, .empty⟩ = .error (.noForms "пусто") ∧
      overridden.lexicon.insert ⟨["отделу"], "отдел", none, .empty⟩ =
        .ok (overridden.insert ⟨["отделу"], "отдел", none, .empty⟩).lexicon := by
  have hmem : ("шульги", 2) ∈ overridden.lexicon.index := by decide +kernel
  have hadded : overridden.added = [⟨["шульги"], "шульга", none, .empty⟩,
      ⟨["Шульги", "ШУЛЬГИ"], "шульгин", none, .empty⟩,
      ⟨["отдел", "шульги"], "шульг", none, .empty⟩] := by
    decide +kernel
  obtain ⟨hrange, hlookup, hsize, hinsert⟩ := lookup_last_added overridden
  rw [hadded] at hlookup hsize
  obtain ⟨_, hrefused⟩ := hinsert ⟨[], "пусто", none, .empty⟩
  obtain ⟨haccepted, _⟩ := hinsert ⟨["отделу"], "отдел", none, .empty⟩
  refine ⟨hmem, hrange _ hmem, hsize, (hlookup _).trans ?_, (hlookup _).trans ?_,
    (hrefused rfl).1, haccepted (List.cons_ne_nil _ _)⟩
  · decide +kernel
  · decide +kernel

end Lexicon.History

end FactGrammar
