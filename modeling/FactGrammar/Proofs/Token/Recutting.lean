import FactGrammar.Proofs.Token.Division
import FactGrammar.Proofs.Token.Places

namespace FactGrammar

open Text

variable {offset : Nat} {cs part rest : List Char} {front behind tokens tokens' : List Token}

theorem takeWhile_eq_of_isPrefix {accepts : Char → Bool} (hrun : rest.takeWhile accepts <+: part)
    (hpart : part <+: rest) : part.takeWhile accepts = rest.takeWhile accepts := by
  obtain ⟨left, rfl⟩ := hrun
  obtain ⟨more, hmore⟩ := hpart
  have haccepted : ∀ c ∈ rest.takeWhile accepts, accepts c = true :=
    List.all_eq_true.1 List.all_takeWhile
  have hwhole := congrArg (List.takeWhile accepts) hmore
  rw [List.append_assoc, List.takeWhile_append_of_pos haccepted,
    List.append_right_eq_self] at hwhole
  rw [List.takeWhile_append_of_pos haccepted, List.append_right_eq_self]
  cases left with
  | nil => rfl
  | cons c left =>
    rw [List.cons_append, List.takeWhile_cons] at hwhole
    rw [List.takeWhile_cons]
    split at hwhole
    · cases hwhole
    · rename_i hrefused
      exact if_neg hrefused

theorem leadingRun_eq_of_isPrefix (hrun : (leadingRun c rest).2 <+: c :: part)
    (hpart : part <+: rest) : leadingRun c part = leadingRun c rest := by
  rw [leadingRun, leadingRun] at *
  split
  · rename_i hletter
    rw [if_pos hletter] at hrun
    rw [takeWhile_eq_of_isPrefix (List.cons_prefix_cons.1 hrun).2 hpart]
  · rename_i hletter
    rw [if_neg hletter] at hrun
    split
    · rename_i hdigit
      rw [if_pos hdigit] at hrun
      rw [takeWhile_eq_of_isPrefix (List.cons_prefix_cons.1 hrun).2 hpart]
    · rfl

/-- The first token stays what it is when a text ends anywhere behind it. -/
theorem scanFrom_run_append {before after : List Char} (hblank : ¬ isWhitespace c = true)
    (offset : Nat) (hsplit : (leadingRun c rest).2 ++ (before ++ after) = c :: rest) :
    scanFrom offset ((leadingRun c rest).2 ++ before) =
      .untagged offset (offset + utf8Length (leadingRun c rest).2)
          (String.ofList (leadingRun c rest).2) (leadingRun c rest).1 ::
        scanFrom (offset + utf8Length (leadingRun c rest).2) before := by
  cases hrun : (leadingRun c rest).2 with
  | nil => exact absurd hrun (leadingRun_ne_nil c rest)
  | cons d letters =>
    rw [hrun, List.cons_append] at hsplit
    obtain ⟨rfl, hletters⟩ := List.cons.inj hsplit
    have hpart : letters ++ before <+: rest := by
      rw [← hletters, ← List.append_assoc]
      exact List.prefix_append _ _
    have hsame : leadingRun d (letters ++ before) = leadingRun d rest := by
      apply leadingRun_eq_of_isPrefix _ hpart
      rw [hrun, ← List.cons_append]
      exact List.prefix_append _ _
    rw [List.cons_append, scanFrom_of_run hblank, hsame, hrun, ← List.cons_append, List.drop_left]

/-- Between two tokens a text can be cut in two without a token being cut. -/
theorem scanFrom_eq_append (h : scanFrom offset cs = front ++ behind) :
    ∃ before after, cs = before ++ after ∧ scanFrom offset before = front ∧
      scanFrom (offset + utf8Length before) after = behind := by
  fun_induction scanFrom offset cs generalizing front with
  | case1 offset =>
    obtain ⟨rfl, rfl⟩ := List.append_eq_nil_iff.1 h.symm
    exact ⟨[], [], rfl, by rw [scanFrom], by rw [scanFrom]⟩
  | case2 offset c rest hblank ih =>
    obtain ⟨before, after, rfl, hbefore, hafter⟩ := ih h
    refine ⟨c :: before, after, rfl, ?_, ?_⟩
    · rw [scanFrom_of_blank hblank]
      exact hbefore
    · rw [utf8Length, ← Nat.add_assoc]
      exact hafter
  | case3 offset c rest hblank run stop =>
    rename_i ih
    cases front with
    | nil =>
      refine ⟨[], c :: rest, rfl, by rw [scanFrom], ?_⟩
      rw [utf8Length, Nat.add_zero, scanFrom_of_run hblank]
      exact h
    | cons first front =>
      obtain ⟨rfl, hrest⟩ := List.cons.inj h
      obtain ⟨before, after, hsplit, hbefore, hafter⟩ := ih hrest
      have hwhole : run.2 ++ (before ++ after) = c :: rest := by
        obtain ⟨left, hleft⟩ := leadingRun_isPrefix c rest
        rw [← hsplit, ← hleft, List.drop_left]
      refine ⟨run.2 ++ before, after, ?_, ?_, ?_⟩
      · rw [List.append_assoc, hwhole]
      · rw [scanFrom_run_append hblank offset hwhole]
        exact congrArg _ hbefore
      · rw [utf8Length_append, ← Nat.add_assoc]
        exact hafter

/-- Neighbouring tokens of a text are all tokens of some stretch of it. -/
theorem exists_scanFrom_of_isInfix (h : tokens <:+: scanFrom offset cs) :
    ∃ place stretch, tokens = scanFrom place stretch := by
  obtain ⟨before, behind, happend⟩ := h
  rw [List.append_assoc] at happend
  obtain ⟨_, after, _, _, hafter⟩ := scanFrom_eq_append happend.symm
  obtain ⟨stretch, _, _, hstretch, _⟩ := scanFrom_eq_append hafter
  exact ⟨_, stretch, hstretch.symm⟩

namespace Text

theorem not_of_mem_splitOnP {p : Char → Bool} (h : piece ∈ cs.splitOnP p) :
    ∀ c ∈ piece, p c = false := by
  induction cs generalizing piece with
  | nil =>
    rw [List.splitOnP_nil, List.mem_singleton] at h
    rw [h]
    exact List.forall_mem_nil _
  | cons c rest ih =>
    rw [List.splitOnP_cons_eq_if_modifyHead] at h
    split at h
    · rcases List.mem_cons.1 h with rfl | h
      · exact List.forall_mem_nil _
      · exact ih h
    · rename_i hc
      cases hsplit : rest.splitOnP p with
      | nil => exact absurd hsplit (List.splitOnP_ne_nil p rest)
      | cons first others =>
        rw [hsplit] at h ih
        rcases List.mem_cons.1 h with rfl | h
        · exact List.forall_mem_cons.2 ⟨Bool.eq_false_iff.2 hc, ih List.mem_cons_self⟩
        · exact ih (List.mem_cons_of_mem first h)

theorem isSolid_of_mem_words (h : word ∈ words text) : IsSolid word ∧ word ≠ "" := by
  obtain ⟨piece, hpiece, rfl⟩ := List.mem_map.1 h
  obtain ⟨hmem, hne⟩ := List.mem_filter.1 hpiece
  constructor
  · rw [IsSolid, String.toList_ofList]
    exact not_of_mem_splitOnP hmem
  · rw [Ne, String.ofList_eq_empty_iff]
    intro hnil
    rw [hnil] at hne
    cases hne

theorem isBlank_space : IsBlank " " := by
  apply List.all_eq_true.1
  decide

theorem words_intercalate {parts : List String} (h : ∀ part ∈ parts, IsSolid part ∧ part ≠ "") :
    words (" ".intercalate parts) = parts := by
  induction parts with
  | nil => exact words_empty
  | cons part rest ih =>
    obtain ⟨⟨hsolid, hne⟩, hrest⟩ := List.forall_mem_cons.1 h
    have hpart : words part = [part] := words_of_solid hsolid hne
    cases rest with
    | nil =>
      rw [String.intercalate_singleton]
      exact hpart
    | cons next rest =>
      rw [String.intercalate_cons_cons, String.append_assoc,
        words_append_gap isBlank_space (by decide), hpart, ih hrest]
      rfl

theorem words_singleSpaced (text : String) : words (singleSpaced text) = words text :=
  words_intercalate fun _ => isSolid_of_mem_words

end Text

namespace Respaced

theorem symm (h : Respaced tokens tokens') : Respaced tokens' tokens :=
  ⟨h.forms.symm, h.gaps.symm⟩

theorem trans (h : Respaced tokens tokens') (h' : Respaced tokens' others) :
    Respaced tokens others :=
  ⟨h.forms.trans h'.forms, h.gaps.trans h'.gaps⟩

end Respaced

theorem respaced_scanFrom (offset : Nat) (cs : List Char) :
    Respaced (scanFrom offset cs) (scanFrom 0 cs) where
  forms := by rw [forms_scanFrom offset cs true, forms_scanFrom 0 cs true]
  gaps := by
    have hgaps (offset : Nat) :
        Token.gaps (scanFrom offset cs) = (outline true cs).tail.map Prod.fst := by
      rw [← Token.gaps_tail default, gaps_scanFrom offset cs default (Nat.zero_le offset),
        ← List.map_tail, outline_tail]
    rw [hgaps, hgaps]

theorem Lexicon.respaced_tokenize_join (lexicon : Lexicon) (offset : Nat) (cs : List Char) :
    Respaced (lexicon.tokenize (Token.join Token.text ((scanFrom offset cs).map lexicon.tag)))
      ((scanFrom offset cs).map lexicon.tag) := by
  have hstretch : Respaced ((scanFrom offset cs).map lexicon.tag)
      (lexicon.tokenize (String.ofList cs)) := by
    rw [tokenize, scan, String.toList_ofList]
    exact (respaced_scanFrom offset cs).map_tag lexicon
  have hjoin : Token.join Token.text ((scanFrom offset cs).map lexicon.tag) =
      singleSpaced (String.ofList cs) := by
    rw [hstretch.join_eq fun _ => rfl]
    exact (lexicon.covers_tokenize _).join_eq
  rw [hjoin]
  exact (lexicon.respaced_tokenize (words_singleSpaced _)).trans hstretch.symm

def Token.Touch (tokens : List Token) (i : Nat) : Prop :=
  ∃ first second, tokens[i]? = some first ∧ tokens[i + 1]? = some second ∧
    first.stop = second.start

/-- The same tokens in the same order but for their offsets, which touch at the same places. -/
structure Token.Recut (tokens tokens' : List Token) : Prop where
  forms : tokens'.map Token.unplaced = tokens.map Token.unplaced
  touch_iff : ∀ i, Touch tokens' i ↔ Touch tokens i

theorem Token.touch_iff (h : tokens.IsChain fun token next => token.stop ≤ next.start) (i : Nat) :
    Touch tokens i ↔ (gaps tokens)[i]? = some false := by
  induction tokens generalizing i with
  | nil =>
    constructor
    · rintro ⟨_, _, ⟨⟩, _⟩
    · rintro ⟨⟩
  | cons first rest ih =>
    cases rest with
    | nil =>
      constructor
      · rintro ⟨_, _, _, ⟨⟩, _⟩
      · rintro ⟨⟩
    | cons second rest =>
      obtain ⟨hle, hrest⟩ := List.isChain_cons_cons.1 h
      cases i with
      | zero =>
        rw [gaps, List.getElem?_cons_zero, Option.some.injEq, decide_eq_false_iff_not, Nat.not_lt]
        constructor
        · rintro ⟨_, _, ⟨⟩, ⟨⟩, htouch⟩
          exact Nat.le_of_eq htouch.symm
        · intro hge
          exact ⟨first, second, rfl, rfl, Nat.le_antisymm hle hge⟩
      | succ i =>
        rw [gaps, List.getElem?_cons_succ, ← ih hrest]
        rfl

theorem Lexicon.isChain_map_tag (lexicon : Lexicon) (offset : Nat) (cs : List Char) :
    ((scanFrom offset cs).map lexicon.tag).IsChain fun token next => token.stop ≤ next.start :=
  ((covers_scanFrom offset cs).map_tag lexicon).isChain

/-- What neighbouring tokens of a text are joined to is cut into the same tokens, which touch where
they touched in the text. So a text that was cut and joined stays as it is. -/
theorem Lexicon.tokenize_join (lexicon : Lexicon) (text : String) :
    (∀ tokens, tokens <:+: lexicon.tokenize text →
        Token.Recut tokens (lexicon.tokenize (Token.join Token.text tokens)) ∧
          Token.join Token.text (lexicon.tokenize (Token.join Token.text tokens)) =
            Token.join Token.text tokens) ∧
      Token.join Token.text
          (lexicon.tokenize (Token.join Token.text (lexicon.tokenize text))) =
        Token.join Token.text (lexicon.tokenize text) := by
  have hslice {tokens : List Token} (h : tokens <:+: lexicon.tokenize text) :
      Respaced (lexicon.tokenize (Token.join Token.text tokens)) tokens ∧
        tokens.IsChain fun token next => token.stop ≤ next.start := by
    obtain ⟨scanned, hscanned, rfl⟩ := List.infix_map_iff.1 h
    obtain ⟨offset, cs, rfl⟩ := exists_scanFrom_of_isInfix hscanned
    exact ⟨lexicon.respaced_tokenize_join offset cs, lexicon.isChain_map_tag offset cs⟩
  have hjoin {tokens : List Token} (h : tokens <:+: lexicon.tokenize text) :
      Token.join Token.text (lexicon.tokenize (Token.join Token.text tokens)) =
        Token.join Token.text tokens :=
    (hslice h).1.join_eq fun _ => rfl
  refine ⟨?_, hjoin List.infix_rfl⟩
  intro tokens h
  obtain ⟨hrespaced, hchain⟩ := hslice h
  refine ⟨⟨hrespaced.forms, ?_⟩, hjoin h⟩
  intro i
  rw [Token.touch_iff (lexicon.covers_tokenize _).isChain, Token.touch_iff hchain, hrespaced.gaps]

theorem Span.slice_isInfix (span : Span) (xs : List α) : span.slice xs <:+: xs := by
  have hbefore := (List.take_prefix span.stop xs).isInfix
  exact (List.drop_suffix span.start (xs.take span.stop)).isInfix.trans hbefore

def oneWord : Lexicon :=
  Lexicon.empty.insertOrKeep ⟨["Наук"], "наука", some "NOUN", .ofList ["femn"]⟩

theorem Lexicon.tokenize_join_respacedText :
    ∃ tokens, tokens <:+: oneWord.tokenize respacedText ∧
      Token.join Token.text tokens = "математических наук , 05.13" ∧
      Token.Recut tokens (oneWord.tokenize "математических наук , 05.13") := by
  have hstretch := (⟨2, 8⟩ : Span).slice_isInfix (oneWord.tokenize respacedText)
  have hjoin : Token.join Token.text ((⟨2, 8⟩ : Span).slice (oneWord.tokenize respacedText)) =
      "математических наук , 05.13" := by
    decide +kernel
  obtain ⟨hrecut, _⟩ := (oneWord.tokenize_join respacedText).1 _ hstretch
  rw [hjoin] at hrecut
  exact ⟨_, hstretch, hjoin, hrecut⟩

end FactGrammar
