import FactGrammar.Proofs.Matching.Arrangement
import FactGrammar.Proofs.Token.Joining

namespace FactGrammar

open Text

theorem Token.extent_eq {tokens : List Token} (hfirst : tokens.head? = some first)
    (hlast : tokens.getLast? = some last) : extent tokens = ⟨first.start, last.stop⟩ := by
  cases tokens with
  | nil => cases hfirst
  | cons token rest =>
    cases hfirst
    rw [List.getLast?_cons] at hlast
    cases hlast
    rw [extent, List.getLastD_eq_getLast?]

/-- The bytes that the tokens of a span stand in. -/
def Span.bytes (tokens : List Token) (span : Span) : Span :=
  Token.extent (span.slice tokens)

variable {tokens : List Token} {span whole : Span} {parts : List Span}

theorem Span.IsStretch.exists_bytes (h : span.IsStretch tokens) :
    ∃ (hfirst : span.start < tokens.length) (hlast : span.stop - 1 < tokens.length),
      span.bytes tokens = ⟨tokens[span.start].start, tokens[span.stop - 1].stop⟩ := by
  obtain ⟨hlt, hle⟩ := h
  have hfirst : span.start < tokens.length := by omega
  have hlast : span.stop - 1 < tokens.length := by omega
  refine ⟨hfirst, hlast, Token.extent_eq ?_ ?_⟩
  · rw [slice, List.head?_drop, List.getElem?_take_of_lt hlt, List.getElem?_eq_getElem hfirst]
  · rw [slice, List.getLast?_drop, List.length_take, if_neg (by omega), List.getLast?_take,
      if_neg (by omega), List.getElem?_eq_getElem hlast]
    rfl

theorem Span.Arranged.isStretch (h : whole.Arranged parts) (hmem : span ∈ parts)
    (hspan : span.IsStretch tokens) (hstop : whole.stop ≤ tokens.length) :
    whole.IsStretch tokens := by
  obtain ⟨hstart, hinside⟩ := h.inside span hmem
  exact ⟨Nat.lt_of_le_of_lt hstart (Nat.lt_of_lt_of_le hspan.start_lt hinside), hstop⟩

namespace Covers

variable {text : String} {i j : Nat} {a b : Span}

theorem offset_le_of_mem (h : Covers offset text tokens) (hmem : token ∈ tokens) :
    offset ≤ token.start := by
  obtain ⟨before, behind, _, hstart, _⟩ := h.exists_append hmem
  rw [hstart]
  exact Nat.le_add_right _ _

theorem start_le_stop (h : Covers offset text tokens) (hmem : token ∈ tokens) :
    token.start ≤ token.stop := by
  obtain ⟨before, behind, _, _, hstop, _⟩ := h.exists_append hmem
  rw [hstop]
  exact Nat.le_add_right _ _

theorem pairwise_apart (h : Covers offset text tokens) :
    tokens.Pairwise fun token next => token.stop ≤ next.start := by
  induction h with
  | done => exact .nil
  | next _ _ _ _ _ hrest ih =>
    exact List.pairwise_cons.2 ⟨fun _ hmem => hrest.offset_le_of_mem hmem, ih⟩

theorem stop_le_start (h : Covers offset text tokens) (hij : i < j) (hj : j < tokens.length) :
    tokens[i].stop ≤ tokens[j].start :=
  List.pairwise_iff_getElem.1 h.pairwise_apart i j (Nat.lt_trans hij hj) hj hij

theorem start_le_start (h : Covers offset text tokens) (hij : i ≤ j) (hj : j < tokens.length) :
    tokens[i].start ≤ tokens[j].start := by
  rcases Nat.eq_or_lt_of_le hij with rfl | hlt
  · exact Nat.le_refl _
  · exact Nat.le_trans (h.start_le_stop (List.getElem_mem _)) (h.stop_le_start hlt hj)

theorem stop_le_stop (h : Covers offset text tokens) (hij : i ≤ j) (hj : j < tokens.length) :
    tokens[i].stop ≤ tokens[j].stop := by
  rcases Nat.eq_or_lt_of_le hij with rfl | hlt
  · exact Nat.le_refl _
  · exact Nat.le_trans (h.stop_le_start hlt hj) (h.start_le_stop (List.getElem_mem _))

theorem bytes_apart (h : Covers offset text tokens) (ha : a.IsStretch tokens)
    (hb : b.IsStretch tokens) (hab : a.stop ≤ b.start) :
    (a.bytes tokens).stop ≤ (b.bytes tokens).start := by
  obtain ⟨_, _, hbytes⟩ := ha.exists_bytes
  obtain ⟨hfirst, _, hbytes'⟩ := hb.exists_bytes
  have hlt := ha.start_lt
  rw [hbytes, hbytes']
  exact h.stop_le_start (by omega) hfirst

theorem bytes_inside (h : Covers offset text tokens) (ha : a.IsStretch tokens)
    (hb : b.IsStretch tokens) (hab : a.start ≤ b.start ∧ b.stop ≤ a.stop) :
    (a.bytes tokens).start ≤ (b.bytes tokens).start ∧
      (b.bytes tokens).stop ≤ (a.bytes tokens).stop := by
  obtain ⟨_, hlast, hbytes⟩ := ha.exists_bytes
  obtain ⟨hfirst, _, hbytes'⟩ := hb.exists_bytes
  rw [hbytes, hbytes']
  exact ⟨h.start_le_start hab.1 hfirst, h.stop_le_stop (Nat.sub_le_sub_right hab.2 1) hlast⟩

theorem pairwise_bytes (h : Covers offset text tokens)
    (hparts : ∀ part ∈ parts, part.IsStretch tokens)
    (hapart : parts.Pairwise fun part next => part.stop ≤ next.start) :
    (parts.map (Span.bytes tokens)).Pairwise fun part next => part.stop ≤ next.start :=
  List.pairwise_map.2 (hapart.imp_of_mem fun hpart hnext =>
    h.bytes_apart (hparts _ hpart) (hparts _ hnext))

/-- Parts that are arranged as tokens are arranged as bytes. -/
theorem arranged_bytes (h : Covers offset text tokens) (hwhole : whole.IsStretch tokens)
    (hparts : ∀ part ∈ parts, part.IsStretch tokens) (harranged : whole.Arranged parts) :
    (whole.bytes tokens).Arranged (parts.map (Span.bytes tokens)) where
  inside := List.forall_mem_map.2 fun part hpart =>
    h.bytes_inside hwhole (hparts part hpart) (harranged.inside part hpart)
  apart := h.pairwise_bytes hparts harranged.apart

theorem spells_bytes (h : Covers 0 text tokens) (hspan : span.IsStretch tokens) :
    Spells text (span.bytes tokens) (Token.join Token.text (span.slice tokens)) := by
  have hsplit : tokens = (tokens.take span.stop).take span.start ++
      (span.slice tokens ++ tokens.drop span.stop) := by
    rw [Span.slice, ← List.append_assoc, List.take_append_drop, List.take_append_drop]
  rw [hsplit] at h
  exact h.spells hspan.slice_ne_nil

/-- The text of a match that takes up tokens is read off the text from the first of them to the
last. -/
theorem spells_match {grammar : Grammar} {m : Match} (h : Covers 0 text tokens)
    (hm : grammar.matchAt rule tokens start = some m) (hlt : m.span.start < m.span.stop) :
    ∃ first last, tokens[m.span.start]? = some first ∧ tokens[m.span.stop - 1]? = some last ∧
      Spells text ⟨first.start, last.stop⟩ m.text := by
  have hstretch : m.span.IsStretch tokens := ⟨hlt, Grammar.stop_le_of_matchAt hm⟩
  obtain ⟨hfirst, hlast, hbytes⟩ := hstretch.exists_bytes
  refine ⟨_, _, List.getElem?_eq_getElem hfirst, List.getElem?_eq_getElem hlast, ?_⟩
  rw [← hbytes, Grammar.text_of_matchAt hm]
  exact h.spells_bytes hstretch

end Covers

/-- What is joined from neighbouring tokens of a text is the stretch of the text that they stand in,
with one space between its words. All tokens together give the words of the text, and a match the
words from the first token of its span to the last. -/
theorem Lexicon.join_tokenize (lexicon : Lexicon) (text : String) :
    let tokens := lexicon.tokenize text
    (∀ slice, slice <:+: tokens → slice ≠ [] →
        Spells text (Token.extent slice) (Token.join Token.text slice)) ∧
      Token.join Token.text tokens = singleSpaced text ∧
      ∀ (grammar : Grammar) (rule : Rule) (start : Nat) (m : Match),
        grammar.matchAt rule tokens start = some m →
          (m.span.start < m.span.stop →
            ∃ first last, tokens[m.span.start]? = some first ∧
              tokens[m.span.stop - 1]? = some last ∧ Spells text ⟨first.start, last.stop⟩ m.text) ∧
          (m.span.stop ≤ m.span.start → m.text = "") := by
  intro tokens
  have hcovers : Covers 0 text tokens := lexicon.covers_tokenize text
  refine ⟨?_, hcovers.join_eq, ?_⟩
  · rintro slice ⟨before, behind, happend⟩ hne
    rw [← happend, List.append_assoc] at hcovers
    exact hcovers.spells hne
  · intro grammar rule start m hm
    refine ⟨hcovers.spells_match hm, fun hle => ?_⟩
    rw [Grammar.text_of_matchAt hm, Span.slice, List.drop_take, Nat.sub_eq_zero_of_le hle]
    rfl

def respacedText : String := "\u00a0Физико-математических\n наук ,\t05.13 "

theorem Lexicon.join_tokenize_respacedText :
    ∃ slice m first last, slice <:+: Lexicon.empty.tokenize respacedText ∧ slice ≠ [] ∧
      Spells respacedText (Token.extent slice) "-математических наук ," ∧
      Grammar.empty.matchAt (.sequence [.literal (.eq ","), .literal (.kind .integer)])
        (Lexicon.empty.tokenize respacedText) 4 = some m ∧ m.span.start < m.span.stop ∧
      (Lexicon.empty.tokenize respacedText)[m.span.start]? = some first ∧
      (Lexicon.empty.tokenize respacedText)[m.span.stop - 1]? = some last ∧
      m.text = ", 05" ∧ Spells respacedText ⟨first.start, last.stop⟩ ", 05" := by
  obtain ⟨hspells, _, hmatch⟩ := Lexicon.empty.join_tokenize respacedText
  have hstretch : (⟨1, 5⟩ : Span).slice (Lexicon.empty.tokenize respacedText) <:+:
      Lexicon.empty.tokenize respacedText := by
    decide +kernel
  have hne : (⟨1, 5⟩ : Span).slice (Lexicon.empty.tokenize respacedText) ≠ [] := by
    decide +kernel
  have hjoin : Token.join Token.text ((⟨1, 5⟩ : Span).slice (Lexicon.empty.tokenize respacedText)) =
      "-математических наук ," := by
    decide +kernel
  have hsome : (Grammar.empty.matchAt (.sequence [.literal (.eq ","), .literal (.kind .integer)])
      (Lexicon.empty.tokenize respacedText) 4).map (fun m => (m.span, m.text)) =
        some (⟨4, 6⟩, ", 05") := by
    rw [Grammar.matchAt_eq_ite]
    decide +kernel
  obtain ⟨m, hm, hread⟩ := Option.map_eq_some_iff.1 hsome
  obtain ⟨hspan, htext⟩ := Prod.mk.inj hread
  have hlt : m.span.start < m.span.stop := by
    rw [hspan]
    decide
  obtain ⟨first, last, hfirst, hlast, hplace⟩ := (hmatch _ _ _ m hm).1 hlt
  exact ⟨_, m, first, last, hstretch, hne, hjoin ▸ hspells _ hstretch hne, hm, hlt, hfirst, hlast,
    htext, htext ▸ hplace⟩

end FactGrammar
