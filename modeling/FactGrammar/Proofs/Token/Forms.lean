import FactGrammar.Lexicon.Basic
import FactGrammar.Proofs.Matching.TokenRun

namespace FactGrammar

open Text

theorem Text.smallForm_ne_nil (c : Char) : smallForm c ≠ [] := by
  rw [smallForm]
  split
  · exact List.cons_ne_nil _ _
  · exact List.cons_ne_nil _ _

theorem Text.lowercase_ne_empty (h : s ≠ "") : lowercase s ≠ "" := by
  rw [lowercase, Ne, String.ofList_eq_empty_iff]
  cases hs : s.toList with
  | nil => exact absurd (String.toList_eq_nil_iff.1 hs) h
  | cons c rest =>
    rw [smallFormAfter]
    refine List.append_ne_nil_of_left_ne_nil ?_ _
    split
    · exact List.cons_ne_nil _ _
    · exact smallForm_ne_nil c

theorem Text.intercalate_ne_empty (separator : String) (h : x ∈ parts) (hx : x ≠ "") :
    separator.intercalate parts ≠ "" := by
  induction parts with
  | nil => cases h
  | cons y rest ih =>
    cases rest with
    | nil =>
      obtain rfl := List.mem_singleton.1 h
      rw [String.intercalate_singleton]
      exact hx
    | cons z rest =>
      rw [String.intercalate_cons_cons]
      intro hempty
      obtain ⟨hhead, hrest⟩ := String.append_eq_empty_iff.1 hempty
      rcases List.mem_cons.1 h with rfl | h
      · exact hx (String.append_eq_empty_iff.1 hhead).1
      · exact ih h hrest

theorem text_ne_empty_of_mem_scanFrom (h : token ∈ scanFrom offset cs) : token.text ≠ "" := by
  fun_induction scanFrom offset cs with
  | case1 => cases h
  | case2 offset c rest hblank ih => exact ih h
  | case3 offset c rest hblank run stop ih =>
    rcases List.mem_cons.1 h with rfl | h
    · exact fun hempty => leadingRun_ne_nil c rest (String.ofList_eq_empty_iff.1 hempty)
    · exact ih h

theorem normal_of_mem_scanFrom (h : token ∈ scanFrom offset cs) :
    token.normal = lowercase token.text := by
  fun_induction scanFrom offset cs with
  | case1 => cases h
  | case2 offset c rest hblank ih => exact ih h
  | case3 offset c rest hblank run stop ih =>
    rcases List.mem_cons.1 h with rfl | h
    · rfl
    · exact ih h

namespace Lexicon

variable {lexicon : Lexicon}

theorem mem_of_lookup (h : lexicon.lookup word = some entry) : entry ∈ lexicon.entries := by
  obtain ⟨target, _, htarget⟩ := Option.bind_eq_some_iff.1 h
  exact Array.mem_of_getElem? htarget

theorem normal_tag (lexicon : Lexicon) (token : Token) :
    (lexicon.tag token).normal = token.normal ∨
      ∃ entry ∈ lexicon.entries, (lexicon.tag token).normal = entry.normal := by
  rw [tag]
  split
  · exact .inr ⟨_, mem_of_lookup ‹_›, rfl⟩
  · exact .inl rfl

theorem text_ne_empty (h : token ∈ lexicon.tokenize text) : token.text ≠ "" := by
  obtain ⟨scanned, hscanned, rfl⟩ := List.mem_map.1 h
  rw [text_tag]
  exact text_ne_empty_of_mem_scanFrom hscanned

theorem normal_ne_empty (hentries : ∀ entry ∈ lexicon.entries, entry.normal ≠ "")
    (h : token ∈ lexicon.tokenize text) : token.normal ≠ "" := by
  obtain ⟨scanned, hscanned, rfl⟩ := List.mem_map.1 h
  rcases lexicon.normal_tag scanned with hnormal | ⟨entry, hentry, hnormal⟩
  · rw [hnormal, normal_of_mem_scanFrom hscanned]
    exact lowercase_ne_empty (text_ne_empty_of_mem_scanFrom hscanned)
  · rw [hnormal]
    exact hentries entry hentry

end Lexicon

theorem Token.join_ne_empty {form : Token → String} {tokens : List Token} (hne : tokens ≠ [])
    (hform : ∀ token ∈ tokens, form token ≠ "") : join form tokens ≠ "" := by
  cases tokens with
  | nil => exact absurd rfl hne
  | cons token rest =>
    intro hempty
    exact hform token List.mem_cons_self (String.append_eq_empty_iff.1 hempty).1

namespace Span

variable {span : Span} {tokens : List Token} {form : Token → String}

theorem mem_of_mem_slice {xs : List α} (h : x ∈ span.slice xs) : x ∈ xs :=
  List.mem_of_mem_take (List.mem_of_mem_drop h)

theorem IsStretch.slice_ne_nil (h : span.IsStretch tokens) : span.slice tokens ≠ [] := by
  have hstart := h.start_lt
  have hstop := h.stop_le
  rw [slice, Ne, List.drop_eq_nil_iff, List.length_take]
  omega

theorem IsStretch.join_ne_empty (h : span.IsStretch tokens)
    (hform : ∀ token ∈ tokens, form token ≠ "") : Token.join form (span.slice tokens) ≠ "" :=
  Token.join_ne_empty h.slice_ne_nil fun token hmem => hform token (mem_of_mem_slice hmem)

theorem slice_of_tokenSpan (h : tokenSpan accepts tokens p = some span) :
    ∃ token ∈ tokens, accepts token = true ∧ span.slice tokens = [token] := by
  obtain ⟨⟨token, htoken, haccepts⟩, rfl⟩ := tokenSpan_eq_some_iff.1 h
  exact ⟨token, List.mem_of_getElem? htoken, haccepts, slice_of_getElem? htoken⟩

end Span

end FactGrammar
