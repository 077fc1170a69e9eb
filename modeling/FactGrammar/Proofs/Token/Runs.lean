import FactGrammar.Proofs.Token.Division
import FactGrammar.Proofs.Token.Places

namespace FactGrammar

open Text

namespace Text

theorem not_isAlphabetic_of_isDigit {c : Char} (h : c.isDigit = true) : isAlphabetic c = false := by
  have hapart : ∀ letters ∈ alphabetic, letters.2 < '0'.toNat ∨ '9'.toNat < letters.1 := by
    decide +kernel
  have hbounds := Char.isDigit_iff_toNat.1 h
  apply Bool.eq_false_iff.2
  intro halphabetic
  obtain ⟨letters, hletters, hfirst, hlast⟩ := CodePoints.exists_of_contains halphabetic
  have := hapart letters hletters
  omega

theorem not_isDigit_of_isAlphabetic {c : Char} (h : isAlphabetic c = true) : c.isDigit = false := by
  apply Bool.eq_false_iff.2
  intro hdigit
  rw [not_isAlphabetic_of_isDigit hdigit] at h
  cases h

end Text

/-- Neighbouring characters of a class, with none of the class right before or behind them. -/
structure IsRun (accepts : Char → Bool) (before run behind : List Char) : Prop where
  ne_nil : run ≠ []
  accepted : ∀ c ∈ run, accepts c = true
  ends_before : ∀ c ∈ before.getLast?, accepts c = false
  ends_behind : ∀ c ∈ behind.head?, accepts c = false

inductive IsWordKind (letters : List Char) : TokenKind → Prop where
  | russian (hcyrillic : ∀ c ∈ letters, 0x400 ≤ c.toNat ∧ c.toNat ≤ 0x52F) :
      IsWordKind letters .russian
  | latin (hcyrillic : ¬ ∀ c ∈ letters, 0x400 ≤ c.toNat ∧ c.toNat ≤ 0x52F)
      (hlatin : ∀ c ∈ letters, c.isAlpha = true) : IsWordKind letters .latin
  | other (hcyrillic : ¬ ∀ c ∈ letters, 0x400 ≤ c.toNat ∧ c.toNat ≤ 0x52F)
      (hlatin : ¬ ∀ c ∈ letters, c.isAlpha = true) : IsWordKind letters .other

/-- Characters that make up a token of a kind, with what stands before and behind them. -/
inductive Segment (before run behind : List Char) : TokenKind → Prop where
  | word {kind : TokenKind} (hrun : IsRun isAlphabetic before run behind)
      (hkind : IsWordKind run kind) : Segment before run behind kind
  | integer (hrun : IsRun Char.isDigit before run behind) : Segment before run behind .integer
  | sign {c : Char} (hrun : run = [c]) (hblank : isWhitespace c = false)
      (hletter : isAlphabetic c = false) (hdigit : c.isDigit = false) :
      Segment before run behind .punctuation

/-- A token that is cut from a text as a whole segment, without any tags. -/
def Token.CutFrom (whole : List Char) (token : Token) : Prop :=
  ∃ before run behind kind, whole = before ++ (run ++ behind) ∧ Segment before run behind kind ∧
    token = .untagged (utf8Length before) (utf8Length before + utf8Length run)
      (String.ofList run) kind

def Token.Holds (token : Token) (place : Nat) : Prop :=
  token.start ≤ place ∧ place < token.stop

/-- Segments of a text in their order that leave out no character but blanks and take none
twice. -/
structure Segmentation (text : String) (tokens : List Token) : Prop where
  cut : ∀ token ∈ tokens, token.CutFrom text.toList
  held_once : ∀ front c back, text.toList = front ++ c :: back → isWhitespace c = false →
    ∃! i : Nat, ∃ token, tokens[i]? = some token ∧ token.Holds (utf8Length front)
  increasing : tokens.Pairwise fun token next => token.start < next.start

variable {accepts : Char → Bool} {before run behind front back part rest cs : List Char}
  {c : Char} {kind : TokenKind} {token token' : Token} {text : String} {tokens tokens' : List Token}

theorem isCyrillic_iff : isCyrillic c = true ↔ 0x400 ≤ c.toNat ∧ c.toNat ≤ 0x52F := by
  rw [isCyrillic, Bool.and_eq_true, decide_eq_true_eq, decide_eq_true_eq]

theorem isWordKind_iff {letters : List Char} :
    IsWordKind letters kind ↔ wordKind letters = kind := by
  have hcyrillic : letters.all isCyrillic = true ↔
      ∀ c ∈ letters, 0x400 ≤ c.toNat ∧ c.toNat ≤ 0x52F := by
    simp only [List.all_eq_true, isCyrillic_iff]
  have hlatin : letters.all Char.isAlpha = true ↔ ∀ c ∈ letters, c.isAlpha = true :=
    List.all_eq_true
  rw [wordKind]
  constructor
  · intro h
    cases h with
    | russian h => rw [if_pos (hcyrillic.2 h)]
    | latin h h' => rw [if_neg (mt hcyrillic.1 h), if_pos (hlatin.2 h')]
    | other h h' => rw [if_neg (mt hcyrillic.1 h), if_neg (mt hlatin.1 h')]
  · rintro rfl
    split
    · exact .russian (hcyrillic.1 ‹_›)
    · split
      · exact .latin (mt hcyrillic.2 ‹_›) (hlatin.1 ‹_›)
      · exact .other (mt hcyrillic.2 ‹_›) (mt hlatin.2 ‹_›)

theorem takeWhile_eq_of_ends (haccepted : ∀ c ∈ run, accepts c = true)
    (hends : ∀ c ∈ behind.head?, accepts c = false) :
    (run ++ behind).takeWhile accepts = run := by
  rw [List.takeWhile_append_of_pos haccepted]
  cases behind with
  | nil => exact List.append_nil run
  | cons c rest =>
    rw [List.takeWhile_cons_of_neg (Bool.eq_false_iff.1 (hends c rfl)), List.append_nil]

def reachAround (accepts : Char → Bool) (front back : List Char) : List Char × List Char :=
  ((front.reverse.takeWhile accepts).reverse, back.takeWhile accepts)

/-- What the segment around a character takes in on both sides, and its kind. -/
def segmentAround (front : List Char) (c : Char) (back : List Char) :
    (List Char × List Char) × TokenKind :=
  if isAlphabetic c then
    let (part, rest) := reachAround isAlphabetic front back
    ((part, rest), wordKind (part ++ c :: rest))
  else if c.isDigit then (reachAround Char.isDigit front back, .integer)
  else (([], []), .punctuation)

namespace IsRun

theorem eq_reachAround (h : IsRun accepts before (part ++ c :: rest) behind) :
    reachAround accepts (before ++ part) (rest ++ behind) = (part, rest) := by
  obtain ⟨hpart, hrest⟩ := List.forall_mem_append.1 h.accepted
  have hback : (part.reverse ++ before.reverse).takeWhile accepts = part.reverse := by
    apply takeWhile_eq_of_ends
    · intro d hd
      exact hpart d (List.mem_reverse.1 hd)
    · rw [List.head?_reverse]
      exact h.ends_before
  rw [reachAround, List.reverse_append, hback, List.reverse_reverse,
    takeWhile_eq_of_ends (List.forall_mem_cons.1 hrest).2 h.ends_behind]

theorem accepts_mid (h : IsRun accepts before (part ++ c :: rest) behind) : accepts c = true :=
  h.accepted c (List.mem_append_right _ List.mem_cons_self)

theorem of_takeWhile (hc : accepts c = true)
    (hbefore : ∀ d ∈ before.getLast?, accepts d = false) (rest : List Char) :
    IsRun accepts before (c :: rest.takeWhile accepts) (rest.dropWhile accepts) where
  ne_nil := List.cons_ne_nil _ _
  accepted := List.forall_mem_cons.2 ⟨hc, List.all_eq_true.1 List.all_takeWhile⟩
  ends_before := hbefore
  ends_behind := by
    intro d hd
    have hstop := List.head?_dropWhile_not accepts rest
    rw [Option.mem_def.1 hd] at hstop
    exact hstop

end IsRun

namespace Segment

theorem ne_nil (h : Segment before run behind kind) : run ≠ [] := by
  cases h with
  | word hrun => exact hrun.ne_nil
  | integer hrun => exact hrun.ne_nil
  | sign hrun =>
    rw [hrun]
    exact List.cons_ne_nil _ _

theorem not_isWhitespace (h : Segment before run behind kind) (hc : c ∈ run) :
    isWhitespace c = false := by
  apply Bool.eq_false_iff.2
  intro hblank
  cases h with
  | word hrun =>
    have hletter := hrun.accepted c hc
    rw [not_isAlphabetic_of_isWhitespace hblank] at hletter
    cases hletter
  | integer hrun =>
    have hdigit := hrun.accepted c hc
    rw [not_isDigit_of_isWhitespace hblank] at hdigit
    cases hdigit
  | sign hrun hsign =>
    rw [hrun, List.mem_singleton] at hc
    rw [hc, hsign] at hblank
    cases hblank

theorem eq_segmentAround (h : Segment before (part ++ c :: rest) behind kind) :
    segmentAround (before ++ part) c (rest ++ behind) = ((part, rest), kind) := by
  rw [segmentAround]
  cases h with
  | word hrun hkind =>
    rw [if_pos hrun.accepts_mid, hrun.eq_reachAround]
    dsimp only
    rw [isWordKind_iff.1 hkind]
  | integer hrun =>
    rw [not_isAlphabetic_of_isDigit hrun.accepts_mid, if_neg Bool.false_ne_true,
      if_pos hrun.accepts_mid, hrun.eq_reachAround]
  | sign hrun hblank hletter hdigit =>
    rcases List.append_eq_cons_iff.1 hrun with ⟨rfl, hsingle⟩ | ⟨_, _, hnil⟩
    · obtain ⟨rfl, rfl⟩ := List.cons.inj hsingle
      rw [hletter, hdigit, if_neg Bool.false_ne_true, if_neg Bool.false_ne_true]
    · exact absurd hnil.symm (List.append_ne_nil_of_right_ne_nil _ (List.cons_ne_nil c rest))

end Segment

/-- A beginning of a text ends before a character of it or takes the character in. -/
theorem prefix_or_takes_in (h : run <+: front ++ c :: back) :
    run <+: front ∧ utf8Length run ≤ utf8Length front ∨
      ∃ rest, run = front ++ c :: rest ∧ utf8Length front < utf8Length run := by
  have hpos := c.utf8Size_pos
  obtain ⟨left, hleft⟩ := h
  rcases List.append_eq_append_iff.1 hleft with ⟨rest, rfl, _⟩ | ⟨rest, rfl, hrest⟩
  · left
    rw [utf8Length_append]
    exact ⟨List.prefix_append _ _, Nat.le_add_right _ _⟩
  · cases rest with
    | nil =>
      left
      rw [List.append_nil]
      exact ⟨List.prefix_rfl, Nat.le_refl _⟩
    | cons d rest =>
      right
      obtain ⟨rfl, _⟩ := List.cons.inj hrest
      refine ⟨rest, rfl, ?_⟩
      rw [utf8Length_append, utf8Length]
      omega

namespace Token.CutFrom

/-- A token that holds a character is cut from around it. -/
theorem exists_segment (h : token.CutFrom (front ++ c :: back))
    (hholds : token.Holds (utf8Length front)) :
    ∃ before part rest behind kind, front = before ++ part ∧ back = rest ++ behind ∧
      Segment before (part ++ c :: rest) behind kind ∧
      token = .untagged (utf8Length before)
        (utf8Length before + utf8Length (part ++ c :: rest))
        (String.ofList (part ++ c :: rest)) kind := by
  obtain ⟨before, run, behind, kind, hwhole, hsegment, rfl⟩ := h
  obtain ⟨hstart, hstop⟩ : utf8Length before ≤ utf8Length front ∧
    utf8Length front < utf8Length before + utf8Length run := hholds
  have hbefore : before <+: front ++ c :: back := ⟨run ++ behind, hwhole.symm⟩
  have hrun : before ++ run <+: front ++ c :: back := ⟨behind, by rw [hwhole, List.append_assoc]⟩
  rw [← utf8Length_append] at hstop
  rcases prefix_or_takes_in hbefore with ⟨⟨part, rfl⟩, _⟩ | ⟨_, _, hlt⟩
  · rcases prefix_or_takes_in hrun with ⟨_, hle⟩ | ⟨rest, heq, _⟩
    · exact absurd hle (Nat.not_le.2 hstop)
    · rw [List.append_assoc] at heq
      obtain rfl := List.append_cancel_left heq
      simp only [List.append_assoc, List.append_cancel_left_eq, List.cons_append,
        List.cons.injEq, true_and] at hwhole
      exact ⟨before, part, rest, behind, kind, rfl, hwhole, hsegment, rfl⟩
  · exact absurd hstart (Nat.not_le.2 hlt)

theorem eq_of_holds (h : token.CutFrom (front ++ c :: back))
    (h' : token'.CutFrom (front ++ c :: back)) (hholds : token.Holds (utf8Length front))
    (hholds' : token'.Holds (utf8Length front)) : token = token' := by
  obtain ⟨before, part, rest, behind, kind, rfl, rfl, hsegment, rfl⟩ := h.exists_segment hholds
  obtain ⟨before', part', rest', behind', kind', hfront, hback, hsegment', rfl⟩ :=
    h'.exists_segment hholds'
  have hsame := hsegment'.eq_segmentAround
  rw [← hfront, ← hback, hsegment.eq_segmentAround] at hsame
  cases hsame
  obtain rfl := List.append_cancel_right hfront
  rfl

end Token.CutFrom

/-- A place of a text that no run goes across. -/
structure Severed (before behind : List Char) : Prop where
  letters : ∀ c ∈ before.getLast?, ∀ d ∈ behind.head?,
    isAlphabetic d = true → isAlphabetic c = false
  digits : ∀ c ∈ before.getLast?, ∀ d ∈ behind.head?, d.isDigit = true → c.isDigit = false

theorem severed_nil (cs : List Char) : Severed [] cs :=
  ⟨nofun, nofun⟩

theorem severed_concat (hletter : isAlphabetic c = false) (hdigit : c.isDigit = false)
    (before behind : List Char) : Severed (before ++ [c]) behind := by
  constructor
  · rw [List.getLast?_concat]
    intro d hd _ _ _
    cases hd
    exact hletter
  · rw [List.getLast?_concat]
    intro d hd _ _ _
    cases hd
    exact hdigit

theorem Segment.severed (h : Segment before run behind kind) : Severed (before ++ run) behind := by
  have hlast : (before ++ run).getLast? = run.getLast? :=
    List.getLast?_append_of_ne_nil before h.ne_nil
  cases h with
  | word hrun =>
    constructor
    · intro c _ d hd hletter
      rw [hrun.ends_behind d hd] at hletter
      cases hletter
    · intro c hc d _ _
      rw [hlast] at hc
      exact not_isDigit_of_isAlphabetic (hrun.accepted c (List.mem_of_getLast? hc))
  | integer hrun =>
    constructor
    · intro c hc d _ _
      rw [hlast] at hc
      exact not_isAlphabetic_of_isDigit (hrun.accepted c (List.mem_of_getLast? hc))
    · intro c _ d hd hdigit
      rw [hrun.ends_behind d hd] at hdigit
      cases hdigit
  | sign hrun _ hletter hdigit =>
    rw [hrun]
    exact severed_concat hletter hdigit before behind

theorem segment_leadingRun (hblank : isWhitespace c = false)
    (hsevered : Severed before (c :: rest)) :
    ∃ behind, (leadingRun c rest).2 ++ behind = c :: rest ∧
      Segment before (leadingRun c rest).2 behind (leadingRun c rest).1 := by
  have hsplit (accepts : Char → Bool) :
      (c :: rest.takeWhile accepts) ++ rest.dropWhile accepts = c :: rest := by
    rw [List.cons_append, List.takeWhile_append_dropWhile]
  rw [leadingRun]
  split
  · rename_i hletter
    refine ⟨_, hsplit isAlphabetic, .word (.of_takeWhile hletter ?_ rest) (isWordKind_iff.2 rfl)⟩
    intro d hd
    exact hsevered.letters d hd c rfl hletter
  · rename_i hletter
    split
    · rename_i hdigit
      refine ⟨_, hsplit Char.isDigit, .integer (.of_takeWhile hdigit ?_ rest)⟩
      intro d hd
      exact hsevered.digits d hd c rfl hdigit
    · rename_i hdigit
      exact ⟨rest, rfl,
        .sign rfl hblank (Bool.eq_false_iff.2 hletter) (Bool.eq_false_iff.2 hdigit)⟩

/-- The scan only ever stops at places that no run goes across. -/
theorem cutFrom_of_mem_scanFrom (hsevered : Severed before cs)
    (h : token ∈ scanFrom (utf8Length before) cs) : token.CutFrom (before ++ cs) := by
  generalize hoffset : utf8Length before = offset at h
  fun_induction scanFrom offset cs generalizing before with
  | case1 => cases h
  | case2 offset c rest hblank ih =>
    have hnext : Severed (before ++ [c]) rest :=
      severed_concat (not_isAlphabetic_of_isWhitespace hblank)
        (not_isDigit_of_isWhitespace hblank) before rest
    have hoffset' : utf8Length (before ++ [c]) = offset + c.utf8Size := by
      rw [utf8Length_append, hoffset]
      rfl
    have hcut := ih hnext hoffset' h
    rwa [List.append_assoc] at hcut
  | case3 offset c rest hblank run stop =>
    rename_i ih
    obtain ⟨behind, hsplit, hsegment⟩ :=
      segment_leadingRun (Bool.eq_false_iff.2 hblank) hsevered
    rcases List.mem_cons.1 h with rfl | h
    · refine ⟨before, run.2, behind, run.1, ?_, hsegment, ?_⟩
      · rw [hsplit]
      · rw [hoffset]
    · have hdrop : (c :: rest).drop run.2.length = behind := by
        rw [← hsplit, List.drop_left]
      have hoffset' : utf8Length (before ++ run.2) = stop := by
        rw [utf8Length_append, hoffset]
      rw [hdrop] at ih h
      have hcut := ih hsegment.severed hoffset' h
      rwa [List.append_assoc, hsplit] at hcut

theorem exists_holds_scanFrom (offset : Nat) (front back : List Char)
    (hblank : isWhitespace c = false) :
    ∃ token ∈ scanFrom offset (front ++ c :: back),
      token.Holds (offset + utf8Length front) := by
  generalize hcs : front ++ c :: back = cs
  fun_induction scanFrom offset cs generalizing front with
  | case1 => exact absurd hcs (List.append_ne_nil_of_right_ne_nil _ (List.cons_ne_nil c back))
  | case2 offset d rest hd ih =>
    cases front with
    | nil =>
      obtain ⟨rfl, _⟩ := List.cons.inj hcs
      rw [hblank] at hd
      cases hd
    | cons e front =>
      obtain ⟨rfl, hrest⟩ := List.cons.inj hcs
      rw [utf8Length, ← Nat.add_assoc]
      exact ih front hrest
  | case3 offset d rest hd run stop =>
    rename_i ih
    have hprefix : run.2 <+: front ++ c :: back := hcs ▸ leadingRun_isPrefix d rest
    rcases prefix_or_takes_in hprefix with ⟨⟨left, rfl⟩, _⟩ | ⟨_, _, hlt⟩
    · have hdrop : left ++ c :: back = (d :: rest).drop run.2.length := by
        rw [← hcs, List.append_assoc, List.drop_left]
      obtain ⟨token, hmem, hholds⟩ := ih left hdrop
      rw [utf8Length_append, ← Nat.add_assoc]
      exact ⟨token, List.mem_cons_of_mem _ hmem, hholds⟩
    · exact ⟨_, List.mem_cons_self, Nat.le_add_right _ _, Nat.add_lt_add_left hlt offset⟩

namespace Segmentation

theorem scan (text : String) : Segmentation text (scan text) := by
  have hcovers := covers_scan text
  constructor
  · intro token hmem
    exact cutFrom_of_mem_scanFrom (severed_nil text.toList) hmem
  · intro front c back htext hblank
    obtain ⟨token, hmem, hholds⟩ := exists_holds_scanFrom 0 front back hblank
    rw [← htext, ← FactGrammar.scan] at hmem
    rw [Nat.zero_add] at hholds
    obtain ⟨i, hi⟩ := List.mem_iff_getElem?.1 hmem
    refine ⟨i, ⟨token, hi, hholds⟩, ?_⟩
    rintro j ⟨other, hj, hother⟩
    obtain ⟨hlt, rfl⟩ := List.getElem?_eq_some_iff.1 hi
    obtain ⟨hlt', rfl⟩ := List.getElem?_eq_some_iff.1 hj
    -- Of two tokens one ends before the other begins, so they have no byte in common.
    obtain ⟨hstart, hstop⟩ := hholds
    obtain ⟨hstart', hstop'⟩ := hother
    rcases Nat.lt_trichotomy j i with hji | rfl | hij
    · have := hcovers.stop_le_start hji hlt
      omega
    · rfl
    · have := hcovers.stop_le_start hij hlt'
      omega
  · apply hcovers.pairwise_apart.imp_of_mem
    intro token next hmem _ hapart
    exact Nat.lt_of_lt_of_le (hcovers.lossless.start_lt_stop token hmem) hapart

/-- Whatever can be cut from the text is one of the tokens, as it shares its first character with
one of them. -/
theorem mem_iff (h : Segmentation text tokens) : token ∈ tokens ↔ token.CutFrom text.toList := by
  refine ⟨h.cut token, ?_⟩
  intro hcut
  obtain ⟨before, run, behind, kind, htext, hsegment, htoken⟩ := hcut
  cases run with
  | nil => exact absurd rfl hsegment.ne_nil
  | cons c rest =>
    have hblank := hsegment.not_isWhitespace List.mem_cons_self
    have hpos := c.utf8Size_pos
    have hholds : token.Holds (utf8Length before) := by
      rw [htoken]
      refine ⟨Nat.le_refl _, ?_⟩
      change utf8Length before < utf8Length before + utf8Length (c :: rest)
      rw [utf8Length]
      omega
    obtain ⟨i, ⟨held, hi, hheld⟩, _⟩ := h.held_once before c (rest ++ behind) htext hblank
    have hmem := List.mem_of_getElem? hi
    have hcut' := h.cut held hmem
    have hcut : token.CutFrom text.toList := ⟨before, _, behind, kind, htext, hsegment, htoken⟩
    rw [htext] at hcut hcut'
    rw [hcut.eq_of_holds hcut' hholds hheld]
    exact hmem

theorem nodup (h : Segmentation text tokens) : tokens.Nodup := by
  apply h.increasing.imp
  intro token next hlt heq
  rw [heq] at hlt
  exact Nat.lt_irrefl _ hlt

theorem unique (h : Segmentation text tokens) (h' : Segmentation text tokens') :
    tokens = tokens' := by
  have hperm : tokens.Perm tokens' := by
    apply (List.perm_ext_iff_of_nodup h.nodup h'.nodup).2
    intro token
    rw [h.mem_iff, h'.mem_iff]
  apply hperm.eq_of_pairwise _ h.increasing h'.increasing
  intro token next _ _ hlt hgt
  exact absurd hlt (Nat.lt_asymm hgt)

end Segmentation

/-- The tokens of a text are the whole runs of its letters and of its digits and its other
characters that are not blank. No other list of tokens holds all of the text in this way. -/
theorem segmentation_iff (text : String) (tokens : List Token) :
    Segmentation text tokens ↔ tokens = scan text := by
  constructor
  · intro h
    exact h.unique (.scan text)
  · rintro rfl
    exact .scan text

end FactGrammar
