import FactGrammar.Proofs.Token.Spacing
import Mathlib.Data.String.Basic

namespace FactGrammar

namespace Text

def IsBlank (text : String) : Prop :=
  ∀ c ∈ text.toList, isWhitespace c = true

def IsSolid (text : String) : Prop :=
  ∀ c ∈ text.toList, isWhitespace c = false

/-- The part of a text from one byte up to another. -/
def slice (text : String) (start stop : Nat) : String :=
  String.Pos.Raw.extract text ⟨start⟩ ⟨stop⟩

theorem isBlank_empty : IsBlank "" := by
  rw [IsBlank, String.toList_empty]
  exact List.forall_mem_nil _

theorem isBlank_append : IsBlank (a ++ b) ↔ IsBlank a ∧ IsBlank b := by
  rw [IsBlank, String.toList_append, List.forall_mem_append]
  rfl

theorem utf8ByteSize_ofList (cs : List Char) : (String.ofList cs).utf8ByteSize = utf8Length cs := by
  induction cs with
  | nil => rfl
  | cons c rest ih =>
    rw [String.ofList_cons, String.utf8ByteSize_append, String.utf8ByteSize_singleton, ih,
      utf8Length]

theorem slice_append (before part behind : String) :
    slice (before ++ (part ++ behind)) before.utf8ByteSize
      (before.utf8ByteSize + part.utf8ByteSize) = part := by
  have hslice := String.extract_of_valid before.toList part.toList behind.toList
  rw [← String.utf8ByteSize_ofList, ← String.utf8ByteSize_ofList, String.ofList_append,
    String.ofList_append, String.ofList_toList, String.ofList_toList, String.ofList_toList,
    String.append_assoc] at hslice
  exact hslice

theorem slice_to_end (before behind : String) :
    slice (before ++ behind) before.utf8ByteSize (before ++ behind).utf8ByteSize = behind := by
  have hslice := slice_append before behind ""
  rwa [String.append_empty, ← String.utf8ByteSize_append] at hslice

theorem isValid_append (before behind : String) :
    String.Pos.Raw.IsValid (before ++ behind) ⟨before.utf8ByteSize⟩ :=
  String.Pos.Raw.isValid_iff_exists_append.2 ⟨before, behind, rfl, rfl⟩

/-- The parts of a text before, between and behind some tokens, from a byte on. -/
def stretches (text : String) (first : Nat) : List Token → List String
  | [] => [slice text first text.utf8ByteSize]
  | token :: rest => slice text first token.start :: stretches text token.stop rest

def interleave : List String → List String → String
  | gap :: gaps, piece :: pieces => gap ++ (piece ++ interleave gaps pieces)
  | gap :: _, [] => gap
  | [], _ => ""

end Text

open Text

/-- Tokens that stand in a text one after the other, with blanks around them and nothing else. The
offsets count from a byte before the text. -/
inductive Covers : Nat → String → List Token → Prop where
  | done {offset : Nat} {text : String} (hblank : IsBlank text) : Covers offset text []
  | next {offset : Nat} {gap behind : String} {token : Token} {rest : List Token}
      (hgap : IsBlank gap) (hsolid : IsSolid token.text) (hne : token.text ≠ "")
      (hstart : token.start = offset + gap.utf8ByteSize)
      (hstop : token.stop = token.start + token.text.utf8ByteSize)
      (hrest : Covers token.stop behind rest) :
      Covers offset (gap ++ (token.text ++ behind)) (token :: rest)

namespace Covers

variable {offset : Nat} {text before whole : String} {tokens : List Token} {token : Token}

theorem after_blank {blank : String} (hblank : IsBlank blank)
    (h : Covers (offset + blank.utf8ByteSize) text tokens) :
    Covers offset (blank ++ text) tokens := by
  cases h with
  | done htext => exact .done (isBlank_append.2 ⟨hblank, htext⟩)
  | next hgap hsolid hne hstart hstop hrest =>
    rw [← String.append_assoc]
    refine .next (isBlank_append.2 ⟨hblank, hgap⟩) hsolid hne ?_ hstop hrest
    rw [hstart, String.utf8ByteSize_append, Nat.add_assoc]

theorem map_tag (lexicon : Lexicon) (h : Covers offset text tokens) :
    Covers offset text (tokens.map lexicon.tag) := by
  induction h with
  | done hblank => exact .done hblank
  | @next offset gap behind token rest hgap hsolid hne hstart hstop hrest ih =>
    rw [← lexicon.text_tag token] at hsolid hne hstop ⊢
    rw [← lexicon.start_tag token] at hstart hstop
    rw [← lexicon.stop_tag token] at hstop ih
    exact .next hgap hsolid hne hstart hstop ih

/-- Every token stands in the text where its offsets say. -/
theorem exists_append (h : Covers offset text tokens) (hmem : token ∈ tokens) :
    ∃ before behind, text = before ++ (token.text ++ behind) ∧
      token.start = offset + before.utf8ByteSize ∧
      token.stop = token.start + token.text.utf8ByteSize ∧
      IsSolid token.text ∧ token.text ≠ "" := by
  induction h with
  | done => cases hmem
  | @next offset gap behind first rest hgap hsolid hne hstart hstop hrest ih =>
    rcases List.mem_cons.1 hmem with rfl | hmem
    · exact ⟨gap, behind, rfl, hstart, hstop, hsolid, hne⟩
    · obtain ⟨before, behind, rfl, hstart', hstop', hsolid', hne'⟩ := ih hmem
      refine ⟨gap ++ (first.text ++ before), behind, ?_, ?_, hstop', hsolid', hne'⟩
      · simp only [String.append_assoc]
      · rw [hstart', hstop, hstart]
        simp only [String.utf8ByteSize_append, Nat.add_assoc]

theorem offset_le (h : Covers offset text (token :: rest)) : offset ≤ token.start := by
  cases h with
  | next hgap hsolid hne hstart hstop hrest =>
    rw [hstart]
    exact Nat.le_add_right _ _

theorem isChain (h : Covers offset text tokens) :
    tokens.IsChain fun token next => token.stop ≤ next.start := by
  induction h with
  | done => exact .nil
  | @next offset gap behind token rest hgap hsolid hne hstart hstop hrest ih =>
    cases rest with
    | nil => exact .singleton token
    | cons second rest => exact .cons_cons hrest.offset_le ih

theorem stretches_spec (h : Covers offset text tokens) (hwhole : whole = before ++ text)
    (hoffset : before.utf8ByteSize = offset) :
    (∀ gap ∈ stretches whole offset tokens, IsBlank gap) ∧
      interleave (stretches whole offset tokens) (tokens.map Token.text) = text := by
  induction h generalizing before with
  | @done offset text hblank =>
    have hlast : slice whole offset whole.utf8ByteSize = text := by
      rw [hwhole, ← hoffset]
      exact slice_to_end before text
    rw [stretches, hlast]
    exact ⟨List.forall_mem_singleton.2 hblank, rfl⟩
  | @next offset gap behind token rest hgap hsolid hne hstart hstop hrest ih =>
    have hfirst : slice whole offset token.start = gap := by
      rw [hwhole, hstart, ← hoffset]
      exact slice_append before gap (token.text ++ behind)
    have hbefore : whole = before ++ (gap ++ token.text) ++ behind := by
      rw [hwhole]
      simp only [String.append_assoc]
    have hsize : (before ++ (gap ++ token.text)).utf8ByteSize = token.stop := by
      rw [String.utf8ByteSize_append, String.utf8ByteSize_append, hoffset, hstop, hstart,
        Nat.add_assoc]
    obtain ⟨hblank, hjoined⟩ := ih hbefore hsize
    rw [stretches, hfirst, List.map_cons, interleave, hjoined]
    exact ⟨List.forall_mem_cons.2 ⟨hgap, hblank⟩, rfl⟩

end Covers

theorem leadingRun_solid (h : isWhitespace c = false) (rest : List Char) :
    ∀ d ∈ (leadingRun c rest).2, isWhitespace d = false := by
  have htake {p : Char → Bool} (hp : ∀ d, isWhitespace d = true → p d = false) :
      ∀ d ∈ c :: rest.takeWhile p, isWhitespace d = false := by
    refine List.forall_mem_cons.2 ⟨h, ?_⟩
    intro d hd
    have htaken : p d = true := List.all_eq_true.1 List.all_takeWhile d hd
    apply Bool.eq_false_iff.2
    intro hblank
    rw [hp d hblank] at htaken
    cases htaken
  rw [leadingRun]
  split
  · apply htake
    intro d hblank
    exact not_isAlphabetic_of_isWhitespace hblank
  · split
    · apply htake
      intro d hblank
      exact not_isDigit_of_isWhitespace hblank
    · exact List.forall_mem_singleton.2 h

/-- The scan takes a blank into the gap before the next token, and a token as far as its run
goes. -/
theorem covers_scanFrom (offset : Nat) (cs : List Char) :
    Covers offset (String.ofList cs) (scanFrom offset cs) := by
  fun_induction scanFrom offset cs with
  | case1 offset => exact .done isBlank_empty
  | case2 offset c rest hblank ih =>
    have hsingle : IsBlank (String.singleton c) := by
      rw [IsBlank, String.toList_singleton]
      exact List.forall_mem_singleton.2 hblank
    rw [String.ofList_cons]
    apply Covers.after_blank hsingle
    rw [String.utf8ByteSize_singleton]
    exact ih
  | case3 offset c rest hblank run stop ih =>
    obtain ⟨behind, hsplit⟩ : run.2 <+: c :: rest := leadingRun_isPrefix c rest
    have hdrop : (c :: rest).drop run.2.length = behind := by
      rw [← hsplit, List.drop_left]
    have htext : String.ofList (c :: rest) =
        "" ++ (String.ofList run.2 ++ String.ofList behind) := by
      rw [← hsplit, String.ofList_append, String.empty_append]
    have hsolid : IsSolid (String.ofList run.2) := by
      rw [IsSolid, String.toList_ofList]
      exact leadingRun_solid (Bool.eq_false_iff.2 hblank) rest
    have hne : String.ofList run.2 ≠ "" := by
      rw [Ne, String.ofList_eq_empty_iff]
      exact leadingRun_ne_nil c rest
    have hstart : offset = offset + "".utf8ByteSize := by
      rw [String.utf8ByteSize_empty, Nat.add_zero]
    have hstop : stop = offset + (String.ofList run.2).utf8ByteSize := by
      rw [Text.utf8ByteSize_ofList]
    let token : Token := .untagged offset stop (String.ofList run.2) run.1
    rw [hdrop] at ih ⊢
    rw [htext]
    change Covers offset ("" ++ (token.text ++ String.ofList behind)) (token :: _)
    exact .next isBlank_empty hsolid hne hstart hstop ih

/-- Tokens that leave out nothing of a text but blanks. Their offsets are places where the text can
be parted, and each token is the text between its own. -/
structure Lossless (text : String) (tokens : List Token) : Prop where
  start_valid : ∀ token ∈ tokens, String.Pos.Raw.IsValid text ⟨token.start⟩
  stop_valid : ∀ token ∈ tokens, String.Pos.Raw.IsValid text ⟨token.stop⟩
  start_lt_stop : ∀ token ∈ tokens, token.start < token.stop
  slice_eq : ∀ token ∈ tokens, slice text token.start token.stop = token.text
  solid : ∀ token ∈ tokens, IsSolid token.text
  apart : tokens.IsChain fun token next => token.stop ≤ next.start
  blank : ∀ gap ∈ stretches text 0 tokens, IsBlank gap
  rebuilt : interleave (stretches text 0 tokens) (tokens.map Token.text) = text

theorem Covers.lossless {text : String} {tokens : List Token} (h : Covers 0 text tokens) :
    Lossless text tokens := by
  have hstand {token : Token} (hmem : token ∈ tokens) :
      ∃ before behind, text = before ++ (token.text ++ behind) ∧
        token.start = before.utf8ByteSize ∧
        token.stop = before.utf8ByteSize + token.text.utf8ByteSize ∧
        IsSolid token.text ∧ token.text ≠ "" := by
    obtain ⟨before, behind, htext, hstart, hstop, hsolid, hne⟩ := h.exists_append hmem
    rw [Nat.zero_add] at hstart
    rw [hstart] at hstop
    exact ⟨before, behind, htext, hstart, hstop, hsolid, hne⟩
  obtain ⟨hblank, hrebuilt⟩ := h.stretches_spec String.empty_append.symm String.utf8ByteSize_empty
  refine ⟨?_, ?_, ?_, ?_, ?_, h.isChain, hblank, hrebuilt⟩
  · intro token hmem
    obtain ⟨before, behind, htext, hstart, _⟩ := hstand hmem
    rw [hstart, htext]
    exact isValid_append before (token.text ++ behind)
  · intro token hmem
    obtain ⟨before, behind, htext, _, hstop, _⟩ := hstand hmem
    rw [hstop, htext, ← String.append_assoc, ← String.utf8ByteSize_append]
    exact isValid_append (before ++ token.text) behind
  · intro token hmem
    obtain ⟨before, behind, _, hstart, hstop, _, hne⟩ := hstand hmem
    have hpos : token.text.utf8ByteSize ≠ 0 := fun hzero =>
      hne (String.utf8ByteSize_eq_zero_iff.1 hzero)
    omega
  · intro token hmem
    obtain ⟨before, behind, htext, hstart, hstop, _⟩ := hstand hmem
    rw [hstart, hstop, htext]
    exact slice_append before token.text behind
  · intro token hmem
    obtain ⟨_, _, _, _, _, hsolid, _⟩ := hstand hmem
    exact hsolid

theorem covers_scan (text : String) : Covers 0 text (scan text) := by
  have hcovers := covers_scanFrom 0 text.toList
  rwa [String.ofList_toList] at hcovers

/-- Neither cutting a text into tokens nor tagging them loses anything but blanks. -/
theorem scan_lossless (lexicon : Lexicon) (text : String) :
    Lossless text (scan text) ∧ Lossless text (lexicon.tokenize text) :=
  ⟨(covers_scan text).lossless, ((covers_scan text).map_tag lexicon).lossless⟩

end FactGrammar
