import FactGrammar.Proofs.Matching.Locality
import FactGrammar.Proofs.Token.Coverage
import FactGrammar.Proofs.Token.Forms

namespace FactGrammar

namespace Text

/-- The words of a text with one space between them. -/
def singleSpaced (text : String) : String :=
  " ".intercalate (words text)

theorem words_empty : words "" = [] := by
  rfl

theorem words_blank_append (hblank : IsBlank blank) (text : String) :
    words (blank ++ text) = words text := by
  rw [words, words, String.toList_append]
  refine congrArg (List.map String.ofList) ?_
  rw [IsBlank] at hblank
  generalize blank.toList = cs at hblank ⊢
  induction cs with
  | nil => rfl
  | cons c rest ih =>
    obtain ⟨hc, hrest⟩ := List.forall_mem_cons.1 hblank
    rw [← ih hrest]
    exact pieces_append_blank hc [] (rest ++ text.toList)

theorem words_append_gap (hgap : IsBlank gap) (hne : gap ≠ "") (before behind : String) :
    words (before ++ (gap ++ behind)) = words before ++ words behind := by
  cases hcs : gap.toList with
  | nil => exact absurd (String.toList_eq_nil_iff.1 hcs) hne
  | cons c rest =>
    rw [IsBlank, hcs] at hgap
    obtain ⟨hc, hrest⟩ := List.forall_mem_cons.1 hgap
    have hbehind : words (String.ofList rest ++ behind) = words behind := by
      apply words_blank_append
      rwa [IsBlank, String.toList_ofList]
    rw [← hbehind, words, words, words, ← List.map_append, String.toList_append,
      String.toList_append, String.toList_append, String.toList_ofList, hcs, List.cons_append,
      pieces_append_blank hc]

theorem words_append_of_blank (hblank : IsBlank blank) (text : String) :
    words (text ++ blank) = words text := by
  by_cases hempty : blank = ""
  · rw [hempty, String.append_empty]
  · have hgap := words_append_gap hblank hempty text ""
    rwa [String.append_empty, words_empty, List.append_nil] at hgap

theorem words_of_solid (h : IsSolid text) (hne : text ≠ "") : words text = [text] := by
  have hpieces := pieces_of_no_blank h fun hnil => hne (String.toList_eq_nil_iff.1 hnil)
  rw [words, hpieces, List.map_singleton, String.ofList_toList]

theorem splitOnP_append_solid {as : List Char} (h : ∀ c ∈ as, isWhitespace c = false)
    (cs : List Char) :
    (as ++ cs).splitOnP isWhitespace = (cs.splitOnP isWhitespace).modifyHead (as ++ ·) := by
  induction as with
  | nil =>
    rw [List.nil_append]
    cases cs.splitOnP isWhitespace with
    | nil => rfl
    | cons first others => rfl
  | cons a as ih =>
    obtain ⟨ha, has⟩ := List.forall_mem_cons.1 h
    rw [List.cons_append, List.splitOnP_cons_eq_if_modifyHead, if_neg (Bool.eq_false_iff.1 ha),
      ih has, List.modifyHead_modifyHead]
    rfl

/-- Characters that are not blank go into the piece that they stand before. -/
theorem pieces_append_solid {as : List Char} (h : ∀ c ∈ as, isWhitespace c = false)
    (hc : isWhitespace c = false) (rest : List Char) :
    ∃ first others, pieces (c :: rest) = first :: others ∧
      pieces (as ++ c :: rest) = (as ++ first) :: others := by
  cases hsplit : rest.splitOnP isWhitespace with
  | nil => exact absurd hsplit (List.splitOnP_ne_nil _ _)
  | cons first others =>
    have hsolid : (c :: rest).splitOnP isWhitespace = (c :: first) :: others := by
      rw [List.splitOnP_cons_eq_if_modifyHead, if_neg (Bool.eq_false_iff.1 hc), hsplit]
      rfl
    refine ⟨c :: first, others.filter (!·.isEmpty), ?_, ?_⟩
    · rw [pieces, hsolid]
      rfl
    · rw [pieces, splitOnP_append_solid h, hsolid, List.modifyHead_cons, List.filter_cons_of_pos]
      cases as with
      | nil => rfl
      | cons a as => rfl

theorem words_ne_nil (h : IsSolid text) (hne : text ≠ "") (rest : String) :
    words (text ++ rest) ≠ [] := by
  cases hcs : text.toList with
  | nil => exact absurd (String.toList_eq_nil_iff.1 hcs) hne
  | cons c cs =>
    rw [IsSolid, hcs] at h
    obtain ⟨first, others, hpieces, _⟩ := pieces_append_solid (List.forall_mem_nil _)
      (List.forall_mem_cons.1 h).1 (cs ++ rest.toList)
    rw [words, String.toList_append, hcs, List.cons_append, hpieces]
    exact List.cons_ne_nil _ _

theorem singleSpaced_append_solid (ha : IsSolid a) (hb : IsSolid b) (hne : b ≠ "")
    (rest : String) : singleSpaced (a ++ (b ++ rest)) = a ++ singleSpaced (b ++ rest) := by
  cases hcs : b.toList with
  | nil => exact absurd (String.toList_eq_nil_iff.1 hcs) hne
  | cons c cs =>
    rw [IsSolid, hcs] at hb
    obtain ⟨first, others, hpieces, happend⟩ :=
      pieces_append_solid ha (List.forall_mem_cons.1 hb).1 (cs ++ rest.toList)
    rw [singleSpaced, singleSpaced, words, words, String.toList_append, String.toList_append, hcs,
      List.cons_append, happend, hpieces, List.map_cons, List.map_cons, String.ofList_append,
      String.ofList_toList, String.intercalate_cons_append]

theorem singleSpaced_append_gap (ha : IsSolid a) (hane : a ≠ "") (hgap : IsBlank gap)
    (hne : gap ≠ "") (hrest : words rest ≠ []) :
    singleSpaced (a ++ (gap ++ rest)) = a ++ (" " ++ singleSpaced rest) := by
  rw [singleSpaced, words_append_gap hgap hne, words_of_solid ha hane, List.singleton_append,
    String.intercalate_cons_of_ne_nil hrest, String.append_assoc]
  rfl

end Text

open Text

/-- The bytes from the first of some tokens to the last. -/
def Token.extent : List Token → Span
  | [] => ⟨0, 0⟩
  | first :: rest => ⟨first.start, (rest.getLastD first).stop⟩

/-- Some bytes of a text, from one place where it can be parted to another, are a value but for
their blanks. -/
structure Text.Spells (text : String) (place : Span) (value : String) : Prop where
  start_lt : place.start < place.stop
  start_valid : String.Pos.Raw.IsValid text ⟨place.start⟩
  stop_valid : String.Pos.Raw.IsValid text ⟨place.stop⟩
  value_eq : value = singleSpaced (slice text place.start place.stop)

namespace Covers

variable {offset : Nat} {text : String} {before behind rest tokens : List Token} {first : Token}

/-- The tokens that are left behind some others stand in what is left of the text. -/
theorem drop (h : Covers offset text (before ++ tokens)) :
    ∃ front left, text = front ++ left ∧ Covers (offset + front.utf8ByteSize) left tokens := by
  induction before generalizing offset text with
  | nil =>
    refine ⟨"", text, String.empty_append.symm, ?_⟩
    rwa [String.utf8ByteSize_empty, Nat.add_zero]
  | cons token before ih =>
    cases h with
    | @next _ gap left _ _ hgap hsolid hne hstart hstop hrest =>
      obtain ⟨front, left, rfl, hleft⟩ := ih hrest
      refine ⟨gap ++ (token.text ++ front), left, ?_, ?_⟩
      · simp only [String.append_assoc]
      · rw [hstop, hstart] at hleft
        simpa only [String.utf8ByteSize_append, Nat.add_assoc] using hleft

/-- Tokens that follow one another stand in a stretch of the text, which begins with the first of
them. What they are joined to is that stretch with single spaces. -/
theorem exists_stretch (h : Covers offset text (first :: (rest ++ behind))) :
    ∃ gap more left, text = gap ++ ((first.text ++ more) ++ left) ∧ IsBlank gap ∧
      first.start = offset + gap.utf8ByteSize ∧
      (rest.getLastD first).stop = first.start + (first.text ++ more).utf8ByteSize ∧
      Token.join Token.text (first :: rest) = singleSpaced (first.text ++ more) ∧
      Covers (rest.getLastD first).stop left behind := by
  induction rest generalizing offset text first with
  | nil =>
    cases h with
    | @next _ gap left _ _ hgap hsolid hne hstart hstop hrest =>
      refine ⟨gap, "", left, ?_, hgap, hstart, ?_, ?_, hrest⟩
      · rw [String.append_empty]
      · rw [String.append_empty]
        exact hstop
      · rw [String.append_empty, singleSpaced, words_of_solid hsolid hne,
          String.intercalate_singleton]
        exact Token.join_singleton Token.text first
  | cons second rest ih =>
    cases h with
    | @next _ gap left _ _ hgap hsolid hne hstart hstop hrest =>
      have hsecond : IsSolid second.text ∧ second.text ≠ "" := by
        cases hrest with
        | next _ hsolid hne => exact ⟨hsolid, hne⟩
      obtain ⟨between, more, left, rfl, hbetween, hstart', hstop', hjoin, hleft⟩ := ih hrest
      rw [List.getLastD_cons]
      refine ⟨gap, between ++ (second.text ++ more), left, ?_, hgap, hstart, ?_, ?_, hleft⟩
      · simp only [String.append_assoc]
      · rw [hstop', hstart', hstop]
        simp only [String.utf8ByteSize_append, Nat.add_assoc]
      · rw [Token.join_cons_cons, hjoin]
        by_cases hempty : between = ""
        · -- The tokens touch, so the words on both sides are one.
          rw [hempty, String.utf8ByteSize_empty, Nat.add_zero] at hstart'
          rw [if_neg (Nat.not_lt.2 (Nat.le_of_eq hstart')), hempty, String.empty_append,
            String.empty_append, singleSpaced_append_solid hsolid hsecond.1 hsecond.2]
        · have hpos : between.utf8ByteSize ≠ 0 := fun hzero =>
            hempty (String.utf8ByteSize_eq_zero_iff.1 hzero)
          rw [if_pos (by omega), singleSpaced_append_gap hsolid hne hbetween hempty
            (words_ne_nil hsecond.1 hsecond.2 more)]

theorem spells (h : Covers 0 text (before ++ (tokens ++ behind))) (hne : tokens ≠ []) :
    Spells text (Token.extent tokens) (Token.join Token.text tokens) := by
  cases tokens with
  | nil => exact absurd rfl hne
  | cons first rest =>
    obtain ⟨front, left, rfl, hleft⟩ := h.drop
    have hfirst : first.text ≠ "" := by
      cases hleft with
      | next _ _ hne => exact hne
    obtain ⟨gap, more, left, rfl, _, hstart, hstop, hjoin, _⟩ := hleft.exists_stretch
    rw [Nat.zero_add, ← String.utf8ByteSize_append] at hstart
    have hsplit : front ++ (gap ++ ((first.text ++ more) ++ left)) =
        (front ++ gap) ++ ((first.text ++ more) ++ left) := String.append_assoc.symm
    rw [hsplit, Token.extent, hstop, hstart, hjoin]
    refine ⟨?_, isValid_append _ _, ?_, ?_⟩
    · have hpos : first.text.utf8ByteSize ≠ 0 := fun hzero =>
        hfirst (String.utf8ByteSize_eq_zero_iff.1 hzero)
      have hsize : (first.text ++ more).utf8ByteSize =
          first.text.utf8ByteSize + more.utf8ByteSize := String.utf8ByteSize_append
      dsimp only
      omega
    · rw [← String.append_assoc, ← String.utf8ByteSize_append]
      exact isValid_append _ _
    · rw [slice_append]

theorem join_eq (h : Covers 0 text tokens) : Token.join Token.text tokens = singleSpaced text := by
  cases tokens with
  | nil =>
    cases h with
    | done hblank =>
      have hwords := words_append_of_blank hblank ""
      rw [String.empty_append, words_empty] at hwords
      rw [singleSpaced, hwords]
      rfl
  | cons first rest =>
    rw [← List.append_nil rest] at h
    obtain ⟨gap, more, left, rfl, hgap, _, _, hjoin, hleft⟩ := h.exists_stretch
    cases hleft with
    | done hblank =>
      rw [hjoin, singleSpaced, singleSpaced, words_blank_append hgap,
        words_append_of_blank hblank]

end Covers

theorem Lexicon.covers_tokenize (lexicon : Lexicon) (text : String) :
    Covers 0 text (lexicon.tokenize text) :=
  (covers_scan text).map_tag lexicon

end FactGrammar
