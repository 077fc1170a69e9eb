import FactGrammar.Proofs.Academic.Extraction
import FactGrammar.Proofs.Lexicon.Merging
import FactGrammar.Proofs.Token.Runs

namespace FactGrammar

namespace Token

variable {form : Token → String} {c : Char}

theorem exists_joinAfter_concat (form : Token → String) (stop : Nat) (tokens : List Token)
    (last : Token) :
    ∃ gap, (gap = "" ∨ gap = " ") ∧
      joinAfter form stop (tokens ++ [last]) =
        joinAfter form stop tokens ++ (gap ++ form last) := by
  induction tokens generalizing stop with
  | nil =>
    refine ⟨if stop < last.start then " " else "", ?_, ?_⟩
    · split
      · exact .inr rfl
      · exact .inl rfl
    · simp only [List.nil_append, joinAfter, String.append_empty, String.empty_append]
  | cons token rest ih =>
    obtain ⟨gap, hgap, hrest⟩ := ih token.stop
    refine ⟨gap, hgap, ?_⟩
    rw [List.cons_append, joinAfter, joinAfter, hrest, ← String.append_assoc]

theorem exists_join_quoted (form : Token → String) (first opening closing : Token)
    (inner : List Token) :
    ∃ gap gap', (gap = "" ∨ gap = " ") ∧ (gap' = "" ∨ gap' = " ") ∧
      join form (first :: opening :: (inner ++ [closing])) =
        form first ++ gap ++ (form opening ++
          (joinAfter form opening.stop inner ++ gap' ++ form closing)) := by
  obtain ⟨gap', hgap', hconcat⟩ := exists_joinAfter_concat form opening.stop inner closing
  refine ⟨if first.stop < opening.start then " " else "", gap', ?_, hgap', ?_⟩
  · split
    · exact .inr rfl
    · exact .inl rfl
  · rw [join, joinAfter, hconcat]
    simp only [String.append_assoc]

theorem mem_joinAfter {stop : Nat} (h : c ∈ (joinAfter form stop tokens).toList) :
    c = ' ' ∨ ∃ token ∈ tokens, c ∈ (form token).toList := by
  induction tokens generalizing stop with
  | nil =>
    rw [joinAfter, String.toList_empty] at h
    cases h
  | cons token rest ih =>
    simp only [joinAfter, String.toList_append, List.mem_append] at h
    rcases h with (hgap | hform) | hrest
    · split at hgap
      · exact .inl (List.mem_singleton.1 hgap)
      · rw [String.toList_empty] at hgap
        cases hgap
    · exact .inr ⟨token, List.mem_cons_self, hform⟩
    · rcases ih hrest with hspace | ⟨found, hfound, hmem⟩
      · exact .inl hspace
      · exact .inr ⟨found, List.mem_cons_of_mem token hfound, hmem⟩

theorem mem_joinAfter_of_mem (h : token ∈ tokens) (hc : c ∈ (form token).toList) (stop : Nat) :
    c ∈ (joinAfter form stop tokens).toList := by
  induction tokens generalizing stop with
  | nil => cases h
  | cons first rest ih =>
    simp only [joinAfter, String.toList_append, List.mem_append]
    rcases List.mem_cons.1 h with rfl | h
    · exact .inl (.inr hc)
    · exact .inr (ih h first.stop)

theorem mem_join (h : c ∈ (join form tokens).toList) :
    c = ' ' ∨ ∃ token ∈ tokens, c ∈ (form token).toList := by
  cases tokens with
  | nil =>
    rw [join, String.toList_empty] at h
    cases h
  | cons token rest =>
    rw [join, String.toList_append, List.mem_append] at h
    rcases h with hform | hrest
    · exact .inr ⟨token, List.mem_cons_self, hform⟩
    · rcases mem_joinAfter hrest with hspace | ⟨found, hfound, hmem⟩
      · exact .inl hspace
      · exact .inr ⟨found, List.mem_cons_of_mem token hfound, hmem⟩

end Token

namespace Span

theorem slice_eq_take (xs : List α) (a b : Nat) :
    (⟨a, b⟩ : Span).slice xs = (xs.drop a).take (b - a) := by
  rw [slice, List.drop_take]

theorem slice_append_slice (xs : List α) (hab : a ≤ b) (hbc : b ≤ c) :
    (⟨a, b⟩ : Span).slice xs ++ (⟨b, c⟩ : Span).slice xs = (⟨a, c⟩ : Span).slice xs := by
  have hdrop : xs.drop b = (xs.drop a).drop (b - a) := by
    rw [List.drop_drop, Nat.add_sub_cancel' hab]
  rw [slice_eq_take, slice_eq_take, slice_eq_take, hdrop, ← List.take_add]
  congr 1
  omega

theorem slice_afterRun (accepts : Token → Bool) (tokens : List Token) (p : Nat) :
    (⟨p, afterRun accepts tokens p⟩ : Span).slice tokens = (tokens.drop p).takeWhile accepts := by
  rw [slice_eq_take, afterRun, Nat.add_sub_cancel_left]
  exact (List.prefix_iff_eq_take.1 (List.takeWhile_prefix accepts)).symm

end Span

namespace Academic

variable {token : Token} {tokens : List Token} {text : String} {c : Char} {p : Nat}

def IsQuoteMark (c : Char) : Prop :=
  String.singleton c ∈ quoteMarks

theorem quoteMarks_eq :
    quoteMarks = ['"', '\x27', '«', '»', '„', '“', '”'].map String.singleton := by
  decide

namespace IsQuoteMark

theorem of_all (h : IsQuoteMark c) (accepts : Char → Bool)
    (hall : ['"', '\x27', '«', '»', '„', '“', '”'].all accepts = true) : accepts c = true := by
  rw [IsQuoteMark, quoteMarks_eq] at h
  obtain ⟨mark, hmark, hsame⟩ := List.mem_map.1 h
  obtain rfl := String.singleton_inj.1 hsame
  exact List.all_eq_true.1 hall mark hmark

theorem not_isAlphabetic (h : IsQuoteMark c) : Text.isAlphabetic c = false := by
  have hletter := h.of_all (fun c => !Text.isAlphabetic c) (by decide +kernel)
  rwa [Bool.not_eq_true'] at hletter

theorem not_isDigit (h : IsQuoteMark c) : c.isDigit = false := by
  have hdigit := h.of_all (fun c => !c.isDigit) (by decide)
  rwa [Bool.not_eq_true'] at hdigit

theorem ne_space (h : IsQuoteMark c) : c ≠ ' ' := by
  have hspace := h.of_all (fun c => c != ' ') (by decide)
  exact bne_iff_ne.1 hspace

theorem isQuote (h : IsQuoteMark c) (htext : token.text = String.singleton c) :
    isQuote token = true := by
  rw [Academic.isQuote, htext]
  exact List.contains_iff_mem.2 h

end IsQuoteMark

theorem exists_isQuoteMark (h : isQuote token = true) :
    ∃ c, IsQuoteMark c ∧ token.text.toList = [c] := by
  have hmem : token.text ∈ quoteMarks := List.contains_iff_mem.1 h
  rw [quoteMarks_eq] at hmem
  obtain ⟨c, hc, hsame⟩ := List.mem_map.1 hmem
  refine ⟨c, ?_, ?_⟩
  · rw [IsQuoteMark, quoteMarks_eq]
    exact List.mem_map_of_mem hc
  · rw [← hsame]
    exact String.toList_singleton c

/-- Tokens with something in them and no blanks, in which every quotation mark is alone. -/
structure MarksAlone (tokens : List Token) : Prop where
  text_eq : ∀ token ∈ tokens, ∀ c ∈ token.text.toList, IsQuoteMark c →
    token.text = String.singleton c
  solid : ∀ token ∈ tokens, Text.IsSolid token.text
  ne_empty : ∀ token ∈ tokens, token.text ≠ ""

namespace MarksAlone

theorem tokenize (lexicon : Lexicon) (text : String) : MarksAlone (lexicon.tokenize text) := by
  refine ⟨?_, ?_, ?_⟩
  · intro token htoken c hc hmark
    obtain ⟨scanned, hscanned, rfl⟩ := List.mem_map.1 htoken
    rw [lexicon.text_tag] at hc ⊢
    obtain ⟨_, run, _, _, _, hsegment, rfl⟩ := (Segmentation.scan text).cut scanned hscanned
    rw [Token.untagged, String.toList_ofList] at hc
    -- A run of letters or digits has no quotation mark, so the token is the mark.
    cases hsegment with
    | word hrun =>
      have hletter := hrun.accepted c hc
      rw [hmark.not_isAlphabetic] at hletter
      cases hletter
    | integer hrun =>
      have hdigit := hrun.accepted c hc
      rw [hmark.not_isDigit] at hdigit
      cases hdigit
    | sign hrun =>
      rw [hrun] at hc ⊢
      rw [List.mem_singleton.1 hc]
      rfl
  · intro token htoken
    obtain ⟨_, _, _, _, _, hsolid, _⟩ := (lexicon.covers_tokenize text).exists_append htoken
    exact hsolid
  · intro token htoken
    exact Lexicon.text_ne_empty htoken

theorem not_isQuoteMark (h : MarksAlone tokens) (htoken : token ∈ tokens)
    (hquote : isQuote token = false) : ∀ c ∈ token.text.toList, ¬ IsQuoteMark c := by
  intro c hc hmark
  rw [hmark.isQuote (h.text_eq token htoken c hc hmark)] at hquote
  cases hquote

theorem exists_not_isWhitespace (h : MarksAlone tokens) (htoken : token ∈ tokens) :
    ∃ c ∈ token.text.toList, Text.isWhitespace c = false := by
  cases hchars : token.text.toList with
  | nil => exact absurd (String.toList_eq_nil_iff.1 hchars) (h.ne_empty token htoken)
  | cons c rest =>
    have hmem : c ∈ token.text.toList := by
      rw [hchars]
      exact List.mem_cons_self
    exact ⟨c, List.mem_cons_self, h.solid token htoken c hmem⟩

end MarksAlone

theorem not_isQuote_of_quotedSpan {span : Span} (h : quotedSpan tokens p = some span) :
    ∀ token ∈ span.slice tokens, isQuote token = false := by
  obtain ⟨_, hlast, _⟩ := quotedSpan_eq_some_iff.1 h
  obtain ⟨_, hstop⟩ := afterSome_eq_some_iff.1 hlast
  have hslice := Span.slice_afterRun (!isQuote ·) tokens span.start
  rw [hstop] at hslice
  intro token htoken
  rw [hslice] at htoken
  have haccepted := List.all_eq_true.1 List.all_takeWhile token htoken
  rwa [Bool.not_eq_true'] at haccepted

/-- A value that is not empty and has no quotation mark. -/
structure Unquoted (value : String) : Prop where
  ne_empty : value ≠ ""
  not_isQuoteMark : ∀ c ∈ value.toList, ¬ IsQuoteMark c

/-- A value with two quotation marks, of which the second ends it. Something other than a blank
stands between them. -/
def EndsQuoted (value : String) : Prop :=
  ∃ before opening inside closing, value.toList = before ++ opening :: (inside ++ [closing]) ∧
    IsQuoteMark opening ∧ IsQuoteMark closing ∧ (∀ c ∈ before, ¬ IsQuoteMark c) ∧
    (∀ c ∈ inside, ¬ IsQuoteMark c) ∧ ∃ c ∈ inside, Text.isWhitespace c = false

theorem unquoted_of_quotedSpan (h : MarksAlone tokens) {span : Span}
    (hspan : quotedSpan tokens p = some span) :
    Unquoted (Token.join Token.text (span.slice tokens)) := by
  refine ⟨(isStretch_of_quotedSpan hspan).join_ne_empty h.ne_empty, ?_⟩
  intro c hc hmark
  rcases Token.mem_join hc with hspace | ⟨token, htoken, hmem⟩
  · exact hmark.ne_space hspace
  · have hquote := not_isQuote_of_quotedSpan hspan token htoken
    exact h.not_isQuoteMark (Span.mem_of_mem_slice htoken) hquote c hmem hmark

theorem not_isQuoteMark_of_gap {gap : String} (h : gap = "" ∨ gap = " ") :
    ∀ c ∈ gap.toList, ¬ IsQuoteMark c := by
  intro c hc hmark
  rcases h with rfl | rfl
  · rw [String.toList_empty] at hc
    cases hc
  · exact hmark.ne_space (List.mem_singleton.1 hc)

theorem MarksAlone.endsQuoted (h : MarksAlone tokens) {unit opening closing : Token}
    {inner : List Token} (hsub : ∀ token ∈ unit :: inner, token ∈ tokens)
    (hunit : isQuote unit = false) (hopening : isQuote opening = true)
    (hinner : ∀ token ∈ inner, isQuote token = false) (hne : inner ≠ [])
    (hclosing : isQuote closing = true) :
    EndsQuoted (Token.join Token.text (unit :: opening :: (inner ++ [closing]))) := by
  obtain ⟨gap, gap', hgap, hgap', hjoin⟩ :=
    Token.exists_join_quoted Token.text unit opening closing inner
  obtain ⟨mark, hmark, hmarkText⟩ := exists_isQuoteMark hopening
  obtain ⟨mark', hmark', hmarkText'⟩ := exists_isQuoteMark hclosing
  obtain ⟨hunitMem, hinnerMem⟩ := List.forall_mem_cons.1 hsub
  refine ⟨(unit.text ++ gap).toList, mark,
    (Token.joinAfter Token.text opening.stop inner ++ gap').toList, mark', ?_, hmark, hmark',
    ?_, ?_, ?_⟩
  · simp only [hjoin, String.toList_append, hmarkText, hmarkText', List.singleton_append]
  · rw [String.toList_append, List.forall_mem_append]
    exact ⟨h.not_isQuoteMark hunitMem hunit, not_isQuoteMark_of_gap hgap⟩
  · rw [String.toList_append, List.forall_mem_append]
    refine ⟨?_, not_isQuoteMark_of_gap hgap'⟩
    intro c hc hquote
    rcases Token.mem_joinAfter hc with hspace | ⟨token, htoken, hmem⟩
    · exact hquote.ne_space hspace
    · exact h.not_isQuoteMark (hinnerMem token htoken) (hinner token htoken) c hmem hquote
  · obtain ⟨token, htoken⟩ := List.exists_mem_of_ne_nil inner hne
    obtain ⟨c, hc, hblank⟩ := h.exists_not_isWhitespace (hinnerMem token htoken)
    refine ⟨c, ?_, hblank⟩
    rw [String.toList_append]
    exact List.mem_append_left _ (Token.mem_joinAfter_of_mem htoken hc opening.stop)

/-- A quotation is a mark, the tokens inside it and a mark. -/
theorem slice_of_quotedSpan {span : Span} (h : quotedSpan tokens p = some span) :
    ∃ opening closing, isQuote opening = true ∧ isQuote closing = true ∧
      p ≤ span.stop + 1 ∧
      (⟨p, span.stop + 1⟩ : Span).slice tokens = opening :: (span.slice tokens ++ [closing]) := by
  obtain ⟨hopened, hlast, hbehind⟩ := quotedSpan_eq_some_iff.1 h
  obtain ⟨⟨opening, hopening, hopens⟩, hstart⟩ := afterToken_eq_some_iff.1 hopened
  obtain ⟨⟨closing, hclosing, hcloses⟩, _⟩ := afterToken_eq_some_iff.1 hbehind
  obtain ⟨hfilled, _⟩ := afterSome_eq_some_iff.1 hlast
  have hinside : p + 1 ≤ span.stop + 1 := by omega
  have hfirst := Span.slice_append_slice tokens (Nat.le_add_right p 1) hinside
  have hclosed : span.start ≤ span.stop := Nat.le_of_lt hfilled
  have hrest := Span.slice_append_slice tokens hclosed (Nat.le_add_right span.stop 1)
  rw [Span.slice_of_getElem? hopening, hstart] at hfirst
  rw [Span.slice_of_getElem? hclosing] at hrest
  refine ⟨opening, closing, hopens, hcloses, by omega, ?_⟩
  rw [← hfirst, ← hrest]
  rfl

theorem Department.exists_definition {layout : Layout} (h : locate tokens p = some layout) :
    ∃ unit opening closing span, unit ∈ tokens ∧ isUnit unit = true ∧ isQuote opening = true ∧
      isQuote closing = true ∧ quotedSpan tokens (p + 1) = some span ∧
      (layout.value tokens).definition =
        Token.join Token.text (unit :: opening :: (span.slice tokens ++ [closing])) := by
  obtain ⟨stop, hstop, he⟩ := Option.bind_eq_some_iff.1 h
  cases he
  obtain ⟨q, hafter, hquoted⟩ := Option.bind_eq_some_iff.1 hstop
  obtain ⟨⟨unit, hunit, haccepts⟩, rfl⟩ := afterToken_eq_some_iff.1 hafter
  obtain ⟨span, hspan, rfl⟩ := Option.map_eq_some_iff.1 hquoted
  obtain ⟨opening, closing, hopens, hcloses, hle, hslice⟩ := slice_of_quotedSpan hspan
  have hfirst := Span.slice_append_slice tokens (Nat.le_add_right p 1) hle
  rw [Span.slice_of_getElem? hunit, hslice] at hfirst
  refine ⟨unit, opening, closing, span, List.mem_of_getElem? hunit, haccepts, hopens, hcloses,
    hspan, ?_⟩
  exact congrArg (Token.join Token.text) hfirst.symm

theorem Thesis.exists_quotedSpan {layout : Layout} (h : locate tokens p = some layout) :
    ∃ q, quotedSpan tokens q = some layout.title := by
  obtain ⟨⟨kind, title⟩, hhead, he⟩ := Option.bind_eq_some_iff.1 h
  cases he
  obtain ⟨announced, _, h⟩ := Option.bind_eq_some_iff.1 hhead
  obtain ⟨span, hspan, he⟩ := Option.bind_eq_some_iff.1 h
  cases he
  exact ⟨_, hspan⟩

/-- A quotation mark that the lexicon does not know keeps its own form, which is no unit. -/
theorem not_isQuote_of_isUnit {lexicon : Lexicon}
    (hunknown : ∀ mark ∈ quoteMarks, lexicon.lookup mark = none)
    (h : token ∈ lexicon.tokenize text) (hunit : Department.isUnit token = true) :
    isQuote token = false := by
  apply Bool.eq_false_iff.2
  intro hquote
  obtain ⟨scanned, hscanned, rfl⟩ := List.mem_map.1 h
  have hmark : scanned.text ∈ quoteMarks := by
    rw [← lexicon.text_tag scanned]
    exact List.contains_iff_mem.1 hquote
  rw [Lexicon.tag_of_unknown (hunknown _ hmark)] at hunit
  have hnormal : ∀ mark ∈ quoteMarks, Text.lowercase mark ∉ Department.units := by
    decide +kernel
  apply hnormal _ hmark
  rw [← normal_of_mem_scanFrom hscanned]
  exact List.contains_iff_mem.1 hunit

theorem lookup_eq_none_of_forms (history : Lexicon.History)
    (hforms : ∀ entry ∈ history.added, ∀ form ∈ entry.forms, Text.lowercase form ∉ quoteMarks) :
    ∀ mark ∈ quoteMarks, history.lexicon.lookup mark = none := by
  intro mark hmark
  have hsmall : ∀ mark ∈ quoteMarks, Text.lowercase mark = mark := by decide +kernel
  rw [history.records.lookup_eq, List.findRev?_eq_find?_reverse, List.find?_eq_none]
  intro entry hentry hknows
  obtain ⟨form, hform, hsame⟩ := List.any_eq_true.1 hknows
  apply hforms entry (List.mem_reverse.1 hentry) form hform
  rw [beq_iff_eq.1 hsame, hsmall mark hmark]
  exact hmark

/-- A value that is extracted is a name or comes from a department or from a thesis. -/
theorem cases_of_mem_extract {source : TokenSource} {fact : Fact}
    (h : fact ∈ (extract source text).facts.toList) (ha : a ∈ fact.attributes) :
    a.kind = .scientist ∨
      (∃ department ∈ factsOf Department Department.rule (source.tokenize text),
        a = ⟨.department, department.definition⟩) ∨
      ∃ thesis ∈ factsOf Thesis Thesis.rule (source.tokenize text),
        a ∈ thesisAttributes thesis := by
  rw [extract, FactCollection.toList_foldl_add] at h
  have hattributes := Fact.attributes_mem_of_mem_numbered h
  obtain ⟨group, hgroup, hfilled⟩ := List.mem_map.1 (List.mem_filter.1 hattributes).1
  rw [← hfilled] at ha
  have hmem : a ∈ group := (List.mem_filter.1 ha).1
  rcases List.mem_append.1 hgroup with hgroup | hgroup
  · rcases List.mem_append.1 hgroup with hgroup | hgroup
    · left
      obtain ⟨name, _, rfl⟩ := List.mem_map.1 hgroup
      rw [nameAttributes] at hmem
      split at hmem
      · rw [List.mem_singleton.1 hmem]
      · cases hmem
    · obtain ⟨department, hdepartment, rfl⟩ := List.mem_map.1 hgroup
      exact .inr (.inl ⟨department, hdepartment, List.mem_singleton.1 hmem⟩)
  · obtain ⟨thesis, hthesis, rfl⟩ := List.mem_map.1 hgroup
    exact .inr (.inr ⟨thesis, hthesis, hmem⟩)

theorem eq_title_of_kind {thesis : Thesis} (h : a ∈ thesisAttributes thesis)
    (hkind : a.kind = .thesis) : a.value = thesis.title := by
  rcases mem_thesisAttributes.1 h with rfl | ⟨_, _, rfl⟩ | ⟨_, _, rfl | rfl⟩
  · rfl
  all_goals cases hkind

theorem kind_ne_department {thesis : Thesis} (h : a ∈ thesisAttributes thesis) :
    a.kind ≠ .department := by
  rcases mem_thesisAttributes.1 h with rfl | ⟨_, _, rfl⟩ | ⟨_, _, rfl | rfl⟩
  all_goals exact nofun

theorem unquoted_title (h : MarksAlone tokens)
    (hthesis : thesis ∈ factsOf Thesis Thesis.rule tokens) : Unquoted thesis.title := by
  obtain ⟨start, m, hm, hvalue⟩ := matchAt_of_mem_factsOf hthesis
  obtain ⟨layout, hlayout, hlocated⟩ := Thesis.interpret_of_matchAt hm
  cases hvalue.symm.trans hlocated
  obtain ⟨q, hspan⟩ := Thesis.exists_quotedSpan hlayout
  exact unquoted_of_quotedSpan h hspan

theorem endsQuoted_definition (h : MarksAlone tokens)
    (hunits : ∀ token ∈ tokens, Department.isUnit token = true → isQuote token = false)
    (hdepartment : department ∈ factsOf Department Department.rule tokens) :
    EndsQuoted department.definition := by
  obtain ⟨start, m, hm, hvalue⟩ := matchAt_of_mem_factsOf hdepartment
  obtain ⟨layout, hlayout, hlocated⟩ := Department.interpret_of_matchAt hm
  cases hvalue.symm.trans hlocated
  obtain ⟨unit, opening, closing, span, hmem, hunit, hopens, hcloses, hspan, hdefinition⟩ :=
    Department.exists_definition hlayout
  rw [hdefinition]
  have hsub : ∀ token ∈ unit :: span.slice tokens, token ∈ tokens :=
    List.forall_mem_cons.2 ⟨hmem, fun _ => Span.mem_of_mem_slice⟩
  exact h.endsQuoted hsub (hunits unit hmem hunit) hopens (not_isQuote_of_quotedSpan hspan)
    (isStretch_of_quotedSpan hspan).slice_ne_nil hcloses

/-- No lexicon that leaves quotation marks alone lets one into a title, and a department that is
extracted with it ends with the one quotation that it has. -/
theorem quotations_of_extract (history : Lexicon.History)
    (hforms : ∀ entry ∈ history.added, ∀ form ∈ entry.forms, Text.lowercase form ∉ quoteMarks)
    (text : String) :
    ∀ fact ∈ (extract (.ofLexicon history.lexicon) text).facts.toList, ∀ a ∈ fact.attributes,
      (a.kind = .thesis → Unquoted a.value) ∧ (a.kind = .department → EndsQuoted a.value) := by
  intro fact hfact a ha
  have hmarks := MarksAlone.tokenize history.lexicon text
  have hunits : ∀ token ∈ history.lexicon.tokenize text,
      Department.isUnit token = true → isQuote token = false := by
    intro token
    exact not_isQuote_of_isUnit (lookup_eq_none_of_forms history hforms)
  rcases cases_of_mem_extract hfact ha with hscientist | ⟨department, hdepartment, rfl⟩ |
    ⟨thesis, hthesis, hmem⟩
  · rw [hscientist]
    exact ⟨nofun, nofun⟩
  · exact ⟨nofun, fun _ => endsQuoted_definition hmarks hunits hdepartment⟩
  · refine ⟨?_, fun hkind => absurd hkind (kind_ne_department hmem)⟩
    intro hkind
    rw [eq_title_of_kind hmem hkind]
    exact unquoted_title hmarks hthesis

theorem exists_fact_of_department {lexicon : Lexicon}
    (h : department ∈ factsOf Department Department.rule (lexicon.tokenize text)) :
    ∃ fact ∈ (extract (.ofLexicon lexicon) text).facts.toList,
      fact.attributes = [⟨.department, department.definition⟩] := by
  have hgroup : [⟨.department, department.definition⟩] ∈
      factGroups (firstPersonName (lexicon.tokenize text))
        (factsOf Department Department.rule (lexicon.tokenize text))
        (factsOf Thesis Thesis.rule (lexicon.tokenize text)) := by
    rw [factGroups, List.mem_append, List.mem_append]
    exact .inl (.inr (List.mem_map_of_mem h))
  obtain ⟨i, hi, hget⟩ := List.mem_iff_getElem.1 hgroup
  refine ⟨⟨1 + i, _⟩, ?_, rfl⟩
  rw [toList_extract, Fact.numbered, List.mem_mapIdx]
  exact ⟨i, hi, by rw [hget]⟩

theorem mem_factsOf_of_findAll [FactType α] {value : α} (hm : m ∈ grammar.findAll rule tokens)
    (hvalue : m.interpret α = .ok value) : value ∈ factsOf α rule tokens := by
  apply List.mem_filterMap.2
  refine ⟨m, hm, ?_⟩
  rw [hvalue]
  rfl

def unitHistory : Lexicon.History :=
  .insert .new ⟨["Кафедра", "кафедры"], "кафедра", some "NOUN", .empty⟩

/-- A unit whose name is between two marks of different kinds. -/
def mixedMarks : String :=
  "кафедры „Ряды\""

theorem mem_departments_mixedMarks :
    ⟨mixedMarks, none⟩ ∈
      factsOf Department Department.rule (unitHistory.lexicon.tokenize mixedMarks) := by
  have hvalue : (Department.locate (unitHistory.lexicon.tokenize mixedMarks) 0).map
      (fun layout => (layout.span, layout.value (unitHistory.lexicon.tokenize mixedMarks))) =
        some (⟨0, 4⟩, ⟨mixedMarks, none⟩) := by
    decide +kernel
  obtain ⟨layout, hlayout, hvalue⟩ := Option.map_eq_some_iff.1 hvalue
  obtain ⟨hspan, hvalue⟩ := Prod.mk.inj hvalue
  have hm := Grammar.matchAt_of_layout (Department.run_rule 254 0) (Nat.zero_le _) hlayout
  rw [hspan] at hm
  have hfirst : 0 < (unitHistory.lexicon.tokenize mixedMarks).length := by decide +kernel
  obtain ⟨rest, hrest⟩ := (grammar.findFrom_leftmost Department.rule _ 0).eq_cons hfirst hm rfl
  rw [← hvalue]
  refine mem_factsOf_of_findAll (List.mem_of_mem_head? (congrArg List.head? hrest)) ?_
  exact layout.interpret_forest _ (Department.isStretch_of_locate hlayout)

theorem quotations_of_extract_mixedMarks :
    (∀ entry ∈ unitHistory.added, ∀ form ∈ entry.forms, Text.lowercase form ∉ quoteMarks) ∧
      (∃ fact ∈ (extract (.ofLexicon unitHistory.lexicon) mixedMarks).facts.toList,
        ⟨.department, mixedMarks⟩ ∈ fact.attributes) ∧ EndsQuoted mixedMarks := by
  have hforms : ∀ entry ∈ unitHistory.added, ∀ form ∈ entry.forms,
      Text.lowercase form ∉ quoteMarks := by
    decide +kernel
  obtain ⟨fact, hfact, hattributes⟩ := exists_fact_of_department mem_departments_mixedMarks
  have ha : ⟨.department, mixedMarks⟩ ∈ fact.attributes := by
    rw [hattributes]
    exact List.mem_singleton_self _
  have hvalues := quotations_of_extract unitHistory hforms mixedMarks fact hfact _ ha
  exact ⟨hforms, ⟨fact, hfact, ha⟩, hvalues.2 rfl⟩

end Academic

end FactGrammar
