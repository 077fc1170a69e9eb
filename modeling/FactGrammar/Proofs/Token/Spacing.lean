import FactGrammar.Lexicon.Basic
import FactGrammar.Span

namespace FactGrammar

namespace Text

theorem CodePoints.exists_of_contains (h : CodePoints.contains table n = true) :
    ∃ range ∈ table, range.1 ≤ n ∧ n ≤ range.2 := by
  induction table with
  | nil => cases h
  | cons range rest ih =>
    obtain ⟨first, last⟩ := range
    rw [contains] at h
    split at h
    · cases h
    · rename_i hfirst
      split at h
      · rename_i hlast
        exact ⟨_, List.mem_cons_self, Nat.not_lt.1 hfirst, hlast⟩
      · obtain ⟨range, hmem, hrange⟩ := ih h
        exact ⟨range, List.mem_cons_of_mem _ hmem, hrange⟩

theorem not_isAlphabetic_of_isWhitespace (h : isWhitespace c = true) : isAlphabetic c = false := by
  have hapart : ∀ blanks ∈ whitespace, ∀ letters ∈ alphabetic,
      blanks.2 < letters.1 ∨ letters.2 < blanks.1 := by
    decide +kernel
  obtain ⟨blanks, hblanks, hfirst, hlast⟩ := CodePoints.exists_of_contains h
  apply Bool.eq_false_iff.2
  intro halphabetic
  obtain ⟨letters, hletters, hfirst', hlast'⟩ := CodePoints.exists_of_contains halphabetic
  have := hapart blanks hblanks letters hletters
  omega

theorem not_isDigit_of_isWhitespace (h : isWhitespace c = true) : c.isDigit = false := by
  have hapart : ∀ blanks ∈ whitespace, blanks.2 < '0'.toNat ∨ '9'.toNat < blanks.1 := by decide
  obtain ⟨blanks, hblanks, hfirst, hlast⟩ := CodePoints.exists_of_contains h
  have := hapart blanks hblanks
  apply Bool.eq_false_iff.2
  intro hdigit
  have hbounds := Char.isDigit_iff_toNat.1 hdigit
  omega

/-- The longest stretches of characters that are not blank. -/
def pieces (cs : List Char) : List (List Char) :=
  (cs.splitOnP isWhitespace).filter (!·.isEmpty)

/-- The pieces of a text that stand between blanks. -/
def words (text : String) : List String :=
  (pieces text.toList).map String.ofList

theorem pieces_append_blank (hblank : isWhitespace blank = true) (before behind : List Char) :
    pieces (before ++ blank :: behind) = pieces before ++ pieces behind := by
  rw [pieces, List.splitOnP_append_cons before behind hblank, List.filter_append]
  rfl

theorem pieces_of_no_blank {cs : List Char} (h : ∀ c ∈ cs, isWhitespace c = false) (hne : cs ≠ []) :
    pieces cs = [cs] := by
  rw [pieces, List.splitOnP_eq_singleton h, List.filter_cons_of_pos]
  · rfl
  · rw [List.isEmpty_eq_false_iff.2 hne]
    rfl

theorem pieces_eq_of_words_eq (h : words a = words b) : pieces a.toList = pieces b.toList :=
  (List.map_inj_right fun _ _ => String.ofList_inj.1).1 h

end Text

open Text

namespace Token

def unplaced (token : Token) : Token :=
  { token with start := 0, stop := 0 }

/-- For each token but the first, whether it is apart from the one before it. -/
def gaps : List Token → List Bool
  | first :: second :: rest => decide (first.stop < second.start) :: gaps (second :: rest)
  | _ => []

theorem gaps_tail (token : Token) (rest : List Token) :
    (gaps (token :: rest)).tail = gaps rest := by
  cases rest with
  | nil => rfl
  | cons second rest => rfl

theorem gaps_drop (n : Nat) (tokens : List Token) :
    gaps (tokens.drop n) = (gaps tokens).drop n := by
  induction n generalizing tokens with
  | zero => rfl
  | succ n ih =>
    cases tokens with
    | nil => rfl
    | cons token rest => rw [List.drop_succ_cons, ih, ← gaps_tail token rest, List.drop_tail]

theorem gaps_take (n : Nat) (tokens : List Token) :
    gaps (tokens.take (n + 1)) = (gaps tokens).take n := by
  induction n generalizing tokens with
  | zero =>
    cases tokens with
    | nil => rfl
    | cons token rest => rfl
  | succ n ih =>
    match tokens with
    | [] => rfl
    | [token] => rfl
    | first :: second :: rest =>
      have hrest := ih (second :: rest)
      rw [List.take_succ_cons] at hrest
      rw [List.take_succ_cons, List.take_succ_cons, gaps, hrest]
      rfl

theorem tag_unplaced (lexicon : Lexicon) (token : Token) :
    lexicon.tag token.unplaced = (lexicon.tag token).unplaced := by
  have htext : token.unplaced.text = token.text := rfl
  rw [Lexicon.tag, Lexicon.tag, htext]
  cases lexicon.lookup token.text with
  | none => rfl
  | some entry => rfl

theorem gaps_map_tag (lexicon : Lexicon) (tokens : List Token) :
    gaps (tokens.map lexicon.tag) = gaps tokens := by
  fun_induction gaps tokens with
  | case1 first second rest ih =>
    rw [List.map_cons, List.map_cons, gaps, lexicon.stop_tag, lexicon.start_tag]
    exact congrArg _ ih
  | case2 tokens h =>
    cases tokens with
    | nil => rfl
    | cons first rest =>
      cases rest with
      | nil => rfl
      | cons second rest => exact absurd rfl (h first second rest)

end Token

/-- The same tokens but for the offsets, apart at the same places. -/
structure Respaced (tokens tokens' : List Token) : Prop where
  forms : tokens.map Token.unplaced = tokens'.map Token.unplaced
  gaps : Token.gaps tokens = Token.gaps tokens'

namespace Respaced

variable {tokens tokens' : List Token}

theorem length_eq (h : Respaced tokens tokens') : tokens.length = tokens'.length := by
  have hlength := congrArg List.length h.forms
  rwa [List.length_map, List.length_map] at hlength

theorem drop (h : Respaced tokens tokens') (n : Nat) :
    Respaced (tokens.drop n) (tokens'.drop n) where
  forms := by rw [List.map_drop, h.forms, List.map_drop]
  gaps := by rw [Token.gaps_drop, h.gaps, Token.gaps_drop]

theorem take (h : Respaced tokens tokens') (n : Nat) :
    Respaced (tokens.take n) (tokens'.take n) where
  forms := by rw [List.map_take, h.forms, List.map_take]
  gaps := by
    cases n with
    | zero => rfl
    | succ n => rw [Token.gaps_take, h.gaps, Token.gaps_take]

theorem slice (h : Respaced tokens tokens') (span : Span) :
    Respaced (span.slice tokens) (span.slice tokens') :=
  (h.take span.stop).drop span.start

/-- What is joined from tokens depends on their offsets only by the gaps between them. -/
theorem join_eq {form : Token → String} (hform : ∀ token, form token.unplaced = form token)
    (h : Respaced tokens tokens') : Token.join form tokens = Token.join form tokens' := by
  have hhead {first first' : Token} (h : first.unplaced = first'.unplaced) :
      form first = form first' := by
    rw [← hform, h, hform]
  obtain ⟨hforms, hgaps⟩ := h
  induction tokens generalizing tokens' with
  | nil =>
    rw [List.map_nil, eq_comm, List.map_eq_nil_iff] at hforms
    rw [hforms]
  | cons first rest ih =>
    cases tokens' with
    | nil => cases hforms
    | cons first' rest' =>
      obtain ⟨hfirst, hrest⟩ := List.cons.inj hforms
      have hjoin := ih hrest
        (by rw [← Token.gaps_tail first, hgaps, Token.gaps_tail])
      cases rest with
      | nil =>
        rw [List.map_nil, eq_comm, List.map_eq_nil_iff] at hrest
        rw [hrest, Token.join, Token.join, hhead hfirst]
        rfl
      | cons second rest =>
        cases rest' with
        | nil => cases hrest
        | cons second' rest' =>
          have hapart := decide_eq_decide.1 (List.cons.inj hgaps).1
          simp only [Token.join_cons_cons, hhead hfirst, hapart, hjoin]

theorem map_tag (lexicon : Lexicon) (h : Respaced tokens tokens') :
    Respaced (tokens.map lexicon.tag) (tokens'.map lexicon.tag) where
  forms := by
    have hforms := congrArg (List.map lexicon.tag) h.forms
    simp only [List.map_map, Function.comp_def, Token.tag_unplaced] at hforms ⊢
    exact hforms
  gaps := by rw [Token.gaps_map_tag, h.gaps, Token.gaps_map_tag]

end Respaced

/-- The tokens of some characters without their offsets, each with whether it is apart from what
stands before it. -/
def outline (apart : Bool) : List Char → List (Bool × Token)
  | [] => []
  | c :: rest =>
    if isWhitespace c then outline true rest
    else
      let run := leadingRun c rest
      (apart, .untagged 0 0 (String.ofList run.2) run.1) ::
        outline false ((c :: rest).drop run.2.length)
  termination_by cs => cs.length
  decreasing_by
    · simp
    · have := List.length_pos_iff.2 (leadingRun_ne_nil c rest)
      simp only [List.length_drop, List.length_cons]
      omega

theorem outline_of_blank (hblank : isWhitespace c = true) (apart : Bool) (rest : List Char) :
    outline apart (c :: rest) = outline true rest := by
  rw [outline, if_pos hblank]

theorem outline_of_run (hblank : ¬ isWhitespace c = true) (apart : Bool) (rest : List Char) :
    outline apart (c :: rest) =
      (apart, .untagged 0 0 (String.ofList (leadingRun c rest).2) (leadingRun c rest).1) ::
        outline false ((c :: rest).drop (leadingRun c rest).2.length) := by
  rw [outline, if_neg hblank]

theorem forms_scanFrom (offset : Nat) (cs : List Char) (apart : Bool) :
    (scanFrom offset cs).map Token.unplaced = (outline apart cs).map Prod.snd := by
  fun_induction scanFrom offset cs generalizing apart with
  | case1 =>
    rw [outline]
    rfl
  | case2 offset c rest hblank ih => rw [ih true, outline_of_blank hblank]
  | case3 offset c rest hblank run stop ih =>
    rw [outline_of_run hblank, List.map_cons, List.map_cons, ih false]
    rfl

theorem gaps_scanFrom (offset : Nat) (cs : List Char) (token : Token) (h : token.stop ≤ offset) :
    Token.gaps (token :: scanFrom offset cs) =
      (outline (decide (token.stop < offset)) cs).map Prod.fst := by
  fun_induction scanFrom offset cs generalizing token with
  | case1 =>
    rw [outline]
    rfl
  | case2 offset c rest hblank ih =>
    have hlt : token.stop < offset + c.utf8Size := by
      have := c.utf8Size_pos
      omega
    rw [ih token (Nat.le_of_lt hlt), decide_eq_true hlt, outline_of_blank hblank]
  | case3 offset c rest hblank run stop ih =>
    have hrest := ih (.untagged offset stop (String.ofList run.2) run.1) (Nat.le_refl stop)
    have htouch : decide (stop < stop) = false := decide_eq_false (Nat.lt_irrefl stop)
    rw [outline_of_run hblank, Token.gaps, List.map_cons, hrest, ← htouch]
    rfl

/-- A blank ends every run. -/
theorem takeWhile_append_blank {p : Char → Bool} (hblank : p blank = false)
    (before behind : List Char) :
    (before ++ blank :: behind).takeWhile p = before.takeWhile p := by
  induction before with
  | nil => rw [List.nil_append, List.takeWhile_cons, hblank, List.takeWhile_nil, if_neg nofun]
  | cons c rest ih => rw [List.cons_append, List.takeWhile_cons, List.takeWhile_cons, ih]

theorem leadingRun_append_blank (hblank : isWhitespace blank = true) (c : Char)
    (before behind : List Char) :
    leadingRun c (before ++ blank :: behind) = leadingRun c before := by
  rw [leadingRun, leadingRun, takeWhile_append_blank (not_isAlphabetic_of_isWhitespace hblank),
    takeWhile_append_blank (not_isDigit_of_isWhitespace hblank)]

theorem leadingRun_isPrefix (c : Char) (rest : List Char) :
    (leadingRun c rest).2 <+: c :: rest := by
  rw [leadingRun]
  split
  · exact List.cons_prefix_cons.2 ⟨rfl, List.takeWhile_prefix _⟩
  · split
    · exact List.cons_prefix_cons.2 ⟨rfl, List.takeWhile_prefix _⟩
    · exact List.cons_prefix_cons.2 ⟨rfl, List.nil_prefix⟩

theorem outline_append_blank (hblank : isWhitespace blank = true) (apart : Bool)
    (before behind : List Char) :
    outline apart (before ++ blank :: behind) = outline apart before ++ outline true behind := by
  fun_induction outline apart before with
  | case1 apart => exact outline_of_blank hblank apart behind
  | case2 apart c rest hc ih => rw [List.cons_append, outline_of_blank hc, ih]
  | case3 apart c rest hc run ih =>
    rw [List.cons_append, outline_of_run hc, leadingRun_append_blank hblank, ← List.cons_append,
      List.drop_append_of_le_length (leadingRun_isPrefix c rest).length_le, ih]
    rfl

/-- The tokens of a text are those of its pieces, and a piece is apart from what stands before. -/
theorem outline_pieces (cs : List Char) :
    outline true cs = (pieces cs).flatMap (outline true) := by
  by_cases h : ∃ c ∈ cs, isWhitespace c = true
  · obtain ⟨blank, hmem, hblank⟩ := h
    obtain ⟨before, behind, hcs⟩ := List.append_of_mem hmem
    have hlength : cs.length = before.length + (behind.length + 1) := by
      rw [hcs, List.length_append, List.length_cons]
    rw [hcs, outline_append_blank hblank, pieces_append_blank hblank, List.flatMap_append,
      ← outline_pieces before, ← outline_pieces behind]
  · cases cs with
    | nil =>
      rw [outline]
      rfl
    | cons c rest =>
      have hsolid : ∀ d ∈ c :: rest, isWhitespace d = false :=
        fun d hd => Bool.eq_false_iff.2 fun hblank => h ⟨d, hd, hblank⟩
      rw [pieces_of_no_blank hsolid (List.cons_ne_nil c rest), List.flatMap_singleton]
  termination_by cs.length
  decreasing_by
    all_goals omega

theorem outline_tail (apart : Bool) (cs : List Char) :
    (outline apart cs).tail = (outline true cs).tail := by
  cases cs with
  | nil => rw [outline, outline]
  | cons c rest =>
    by_cases hblank : isWhitespace c = true
    · rw [outline_of_blank hblank, outline_of_blank hblank]
    · rw [outline_of_run hblank, outline_of_run hblank]
      rfl

theorem respaced_scan (h : words a = words b) : Respaced (scan a) (scan b) where
  forms := by
    rw [scan, scan, forms_scanFrom 0 _ true, forms_scanFrom 0 _ true, outline_pieces,
      pieces_eq_of_words_eq h, ← outline_pieces]
  gaps := by
    have hgaps (cs : List Char) :
        Token.gaps (scanFrom 0 cs) = ((pieces cs).flatMap (outline true)).tail.map Prod.fst := by
      rw [← Token.gaps_tail default, gaps_scanFrom 0 cs default (Nat.le_refl 0), ← List.map_tail,
        outline_tail, outline_pieces]
    rw [scan, scan, hgaps, hgaps, pieces_eq_of_words_eq h]

theorem Lexicon.respaced_tokenize (lexicon : Lexicon) (h : words a = words b) :
    Respaced (lexicon.tokenize a) (lexicon.tokenize b) :=
  (respaced_scan h).map_tag lexicon

end FactGrammar
