import FactGrammar.Proofs.Token.Coverage

namespace FactGrammar

open Text

def Token.shift (n : Nat) (token : Token) : Token :=
  { token with start := n + token.start, stop := n + token.stop }

theorem utf8Length_append (cs ds : List Char) :
    utf8Length (cs ++ ds) = utf8Length cs + utf8Length ds := by
  induction cs with
  | nil => exact (Nat.zero_add _).symm
  | cons c rest ih => rw [List.cons_append, utf8Length, utf8Length, ih, Nat.add_assoc]

theorem scanFrom_of_blank (hblank : isWhitespace c = true) (offset : Nat) (rest : List Char) :
    scanFrom offset (c :: rest) = scanFrom (offset + c.utf8Size) rest := by
  rw [scanFrom, if_pos hblank]

theorem scanFrom_of_run (hblank : ¬ isWhitespace c = true) (offset : Nat) (rest : List Char) :
    scanFrom offset (c :: rest) =
      .untagged offset (offset + utf8Length (leadingRun c rest).2)
          (String.ofList (leadingRun c rest).2) (leadingRun c rest).1 ::
        scanFrom (offset + utf8Length (leadingRun c rest).2)
          ((c :: rest).drop (leadingRun c rest).2.length) := by
  rw [scanFrom, if_neg hblank]

theorem scanFrom_add (n offset : Nat) (cs : List Char) :
    scanFrom (n + offset) cs = (scanFrom offset cs).map (Token.shift n) := by
  fun_induction scanFrom offset cs with
  | case1 offset =>
    rw [scanFrom]
    rfl
  | case2 offset c rest hblank ih => rw [scanFrom_of_blank hblank, Nat.add_assoc, ih]
  | case3 offset c rest hblank run stop ih =>
    rw [scanFrom_of_run hblank, Nat.add_assoc, ih]
    rfl

theorem scanFrom_eq_map_shift (n : Nat) (cs : List Char) :
    scanFrom n cs = (scanFrom 0 cs).map (Token.shift n) := by
  have hadd := scanFrom_add n 0 cs
  rwa [Nat.add_zero] at hadd

theorem scanFrom_blanks_append {blanks : List Char} (hblanks : ∀ c ∈ blanks, isWhitespace c = true)
    (offset : Nat) (cs : List Char) :
    scanFrom offset (blanks ++ cs) = scanFrom (offset + utf8Length blanks) cs := by
  induction blanks generalizing offset with
  | nil => rfl
  | cons c rest ih =>
    obtain ⟨hc, hrest⟩ := List.forall_mem_cons.1 hblanks
    rw [List.cons_append, scanFrom_of_blank hc, ih hrest, utf8Length, Nat.add_assoc]

/-- A run that begins before a blank ends before it, so the scan comes to the blank as it would come
to the end of the text. -/
theorem scanFrom_append_blank (hblank : isWhitespace blank = true) (offset : Nat)
    (before behind : List Char) :
    scanFrom offset (before ++ blank :: behind) =
      scanFrom offset before ++ scanFrom (offset + utf8Length before) (blank :: behind) := by
  fun_induction scanFrom offset before with
  | case1 offset => rfl
  | case2 offset c rest hc ih =>
    rw [List.cons_append, scanFrom_of_blank hc, ih, utf8Length, Nat.add_assoc]
  | case3 offset c rest hc run stop ih =>
    have hprefix : run.2 <+: c :: rest := leadingRun_isPrefix c rest
    have hoffset : offset + utf8Length (c :: rest) =
        stop + utf8Length ((c :: rest).drop run.2.length) := by
      obtain ⟨left, hsplit⟩ := hprefix
      rw [← hsplit, List.drop_left, utf8Length_append, ← Nat.add_assoc]
    rw [hoffset, List.cons_append, scanFrom_of_run hc, leadingRun_append_blank hblank,
      ← List.cons_append, List.drop_append_of_le_length hprefix.length_le, ih]
    rfl

theorem scan_append_blank {blank : String} (hblank : IsBlank blank) (hne : blank ≠ "")
    (before behind : String) :
    scan (before ++ blank ++ behind) =
      scan before ++ (scan behind).map (Token.shift (before ++ blank).utf8ByteSize) := by
  rw [scan, scan, scan, ← scanFrom_eq_map_shift, String.toList_append, String.toList_append,
    List.append_assoc, ← String.ofList_toList (s := before ++ blank), Text.utf8ByteSize_ofList,
    String.toList_append, utf8Length_append]
  cases hcs : blank.toList with
  | nil => exact absurd (String.toList_eq_nil_iff.1 hcs) hne
  | cons c rest =>
    rw [IsBlank, hcs] at hblank
    have hc : isWhitespace c = true := hblank c List.mem_cons_self
    rw [List.cons_append, scanFrom_append_blank hc, ← List.cons_append,
      scanFrom_blanks_append hblank, Nat.zero_add]

theorem Lexicon.tag_shift (lexicon : Lexicon) (n : Nat) (token : Token) :
    lexicon.tag (token.shift n) = (lexicon.tag token).shift n := by
  have htext : (token.shift n).text = token.text := rfl
  rw [tag, tag, htext]
  cases lexicon.lookup token.text with
  | none => rfl
  | some entry => rfl

/-- The tokens of two texts with blanks between them are the tokens of the one and the tokens of the
other, which are alike but for their places. -/
theorem Lexicon.tokenize_append_blank (lexicon : Lexicon) (before blank behind : String)
    (hblank : IsBlank blank) (hne : blank ≠ "") :
    lexicon.tokenize (before ++ blank ++ behind) =
      lexicon.tokenize before ++
        (lexicon.tokenize behind).map (Token.shift (before ++ blank).utf8ByteSize) := by
  rw [tokenize, scan_append_blank hblank hne, List.map_append, List.map_map, tokenize, tokenize,
    List.map_map]
  apply congrArg
  apply List.map_congr_left
  intro token _
  exact lexicon.tag_shift _ token

theorem Lexicon.tokenize_append_blank_letters :
    IsBlank "\u00a0\n" ∧ "\u00a0\n" ≠ "" ∧
      Lexicon.empty.tokenize ("ITIL" ++ "\u00a0\n" ++ "фонд") =
        [.untagged 0 4 "ITIL" .latin, .untagged 7 15 "фонд" .russian] := by
  have hblank : IsBlank "\u00a0\n" := List.all_eq_true.1 (by decide)
  have hne : "\u00a0\n" ≠ "" := by decide
  refine ⟨hblank, hne, ?_⟩
  rw [Lexicon.empty.tokenize_append_blank "ITIL" "\u00a0\n" "фонд" hblank hne]
  decide +kernel

end FactGrammar
