import FactGrammar.Proofs.Academic.Departments
import FactGrammar.Proofs.Academic.Theses

namespace FactGrammar

/-- The span of a match and the fact that is read off it, where both come from a layout. -/
theorem Grammar.map_matchAt_of_layout [FactType β] {grammar : Grammar} {layout? : Option α}
    {stop : α → Nat} {forest : α → CaptureForest} {value : α → β}
    (heval : grammar.eval tokens maxDepth rule start =
      layout?.map fun layout => (stop layout, forest layout))
    (hend : tokens.length < start → layout? = none)
    (hread : ∀ layout, layout? = some layout →
      Match.interpret β ⟨tokens, ⟨start, stop layout⟩, (forest layout).flatten⟩ =
        .ok (value layout)) :
    (grammar.matchAt rule tokens start).map (fun m => (m.span, m.interpret β)) =
      layout?.map fun layout => (⟨start, stop layout⟩, .ok (value layout)) := by
  rw [matchAt_eq_map_layout heval hend, Option.map_map]
  refine Option.map_congr fun layout hlayout => ?_
  exact congrArg _ (hread layout hlayout)

namespace Academic

variable {tokens : List Token} {i j k n p stop : Nat}

namespace Department

/-- A unit with a quoted name stands at a place. The quotation closes at the first quotation mark
behind the one that opens it, and is not empty. -/
structure Named (tokens : List Token) (i j : Nat) : Prop where
  unit : ∃ token, tokens[i]? = some token ∧ token.normal ∈ units
  opening : ∃ token, tokens[i + 1]? = some token ∧ token.text ∈ quoteMarks
  closing : firstFrom isQuote tokens (i + 2) = some j
  filled : i + 2 < j

/-- A hyphen stands at a place, and behind it a position in its dictionary form. -/
structure Held (tokens : List Token) (p : Nat) (position : String) : Prop where
  joint : ∃ token, tokens[p]? = some token ∧ token.normal ∈ hyphenMarks
  word : ∃ token, tokens[p + 1]? = some token ∧ token.normal = position
  known : position ∈ positions

theorem afterDefinition_eq_some_iff :
    afterDefinition tokens i = some stop ↔ ∃ j, Named tokens i j ∧ j + 1 = stop := by
  rw [afterDefinition, Option.bind_eq_some_iff]
  constructor
  · rintro ⟨q, hq, hquoted⟩
    obtain ⟨⟨unit, hunit, hnormal⟩, rfl⟩ := afterToken_eq_some_iff.1 hq
    obtain ⟨span, hspan, rfl⟩ := Option.map_eq_some_iff.1 hquoted
    rw [quotedSpan_eq, Option.bind_eq_some_iff] at hspan
    obtain ⟨opening, hfilter, hspan⟩ := hspan
    obtain ⟨hopening, htext⟩ := Option.filter_eq_some_iff.1 hfilter
    obtain ⟨_, hclosing, hfilled⟩ := spanUpTo_eq_some_iff.1 hspan
    exact ⟨span.stop, ⟨⟨unit, hunit, List.contains_iff_mem.1 hnormal⟩,
      ⟨opening, hopening, List.contains_iff_mem.1 htext⟩, hclosing, hfilled⟩, rfl⟩
  · rintro ⟨j, ⟨⟨unit, hunit, hnormal⟩, ⟨opening, hopening, htext⟩, hclosing, hfilled⟩, rfl⟩
    have hafter : afterToken isUnit tokens i = some (i + 1) :=
      afterToken_eq_some_iff.2 ⟨⟨unit, hunit, List.contains_iff_mem.2 hnormal⟩, rfl⟩
    have hopens : tokens[i + 1]?.filter isQuote = some opening :=
      Option.filter_eq_some_iff.2 ⟨hopening, List.contains_iff_mem.2 htext⟩
    have hspan : quotedSpan tokens (i + 1) = some ⟨i + 2, j⟩ := by
      rw [quotedSpan_eq, hopens]
      exact spanUpTo_eq_some_iff.2 ⟨rfl, hclosing, hfilled⟩
    refine ⟨i + 1, hafter, ?_⟩
    rw [afterQuoted, hspan]
    rfl

theorem positionSpan_of_held {position : String} (h : Held tokens p position) :
    positionSpan tokens p = some ⟨p + 1, p + 2⟩ ∧
      Span.text? Token.normal tokens ⟨p + 1, p + 2⟩ = some position := by
  obtain ⟨⟨joint, hjoint, hhyphen⟩, ⟨word, hword, rfl⟩, hknown⟩ := h
  have hafter : afterToken isHyphen tokens p = some (p + 1) :=
    afterToken_eq_some_iff.2 ⟨⟨joint, hjoint, List.contains_iff_mem.2 hhyphen⟩, rfl⟩
  have hspan : tokenSpan isPosition tokens (p + 1) = some ⟨p + 1, p + 2⟩ :=
    tokenSpan_eq_some_iff.2 ⟨⟨word, hword, List.contains_iff_mem.2 hknown⟩, rfl⟩
  exact ⟨by rw [positionSpan, hafter, Option.bind_some, hspan],
    Span.text?_of_getElem? Token.normal hword⟩

theorem positionSpan_of_not_held (h : ∀ position, ¬Held tokens p position) :
    positionSpan tokens p = none := by
  refine Option.eq_none_iff_forall_ne_some.2 fun span hspan => ?_
  obtain ⟨q, hq, hspan⟩ := Option.bind_eq_some_iff.1 hspan
  obtain ⟨⟨joint, hjoint, hhyphen⟩, rfl⟩ := afterToken_eq_some_iff.1 hq
  obtain ⟨⟨word, hword, hknown⟩, _⟩ := tokenSpan_eq_some_iff.1 hspan
  exact h word.normal ⟨⟨joint, hjoint, List.contains_iff_mem.1 hhyphen⟩, ⟨word, hword, rfl⟩,
    List.contains_iff_mem.1 hknown⟩

theorem matchAt_eq_map_locate (tokens : List Token) (i : Nat) :
    grammar.matchAt rule tokens i = (locate tokens i).map fun layout =>
      ⟨tokens, ⟨i, layout.span.stop⟩, layout.forest.flatten⟩ := by
  refine Grammar.matchAt_eq_map_layout (run_rule 254 i) fun hend => ?_
  rw [locate, afterDefinition, afterToken_of_end (Nat.le_of_lt hend)]
  rfl

theorem locate_of_named (h : Named tokens i j) :
    locate tokens i = some ⟨⟨i, j + 1⟩, positionSpan tokens (j + 1)⟩ := by
  rw [locate, afterDefinition_eq_some_iff.2 ⟨j, h, rfl⟩]
  rfl

theorem isSome_locate_iff : (locate tokens i).isSome ↔ ∃ j, Named tokens i j := by
  rw [Option.isSome_iff_exists]
  constructor
  · rintro ⟨layout, hlayout⟩
    obtain ⟨stop, hstop, _⟩ := Option.bind_eq_some_iff.1 hlayout
    obtain ⟨j, hnamed, _⟩ := afterDefinition_eq_some_iff.1 hstop
    exact ⟨j, hnamed⟩
  · rintro ⟨j, hnamed⟩
    exact ⟨_, locate_of_named hnamed⟩

/-- The department rule matches just where a unit with a quoted name stands. It takes in a position
behind a hyphen, if one follows. -/
theorem department_recognized (tokens : List Token) (i : Nat) :
    ((grammar.matchAt rule tokens i).isSome ↔ ∃ j, Named tokens i j) ∧
      ∀ j, Named tokens i j → ∃ m, grammar.matchAt rule tokens i = some m ∧
        (∀ position, Held tokens (j + 1) position → m.span = ⟨i, j + 3⟩ ∧
          m.interpret Department =
            .ok ⟨Token.join Token.text (Span.slice ⟨i, j + 1⟩ tokens), some position⟩) ∧
        ((∀ position, ¬Held tokens (j + 1) position) → m.span = ⟨i, j + 1⟩ ∧
          m.interpret Department =
            .ok ⟨Token.join Token.text (Span.slice ⟨i, j + 1⟩ tokens), none⟩) := by
  have hmatch := matchAt_eq_map_locate tokens i
  refine ⟨by rw [hmatch, Option.isSome_map, isSome_locate_iff], fun j h => ?_⟩
  have hlayout := locate_of_named h
  have hstretch := isStretch_of_locate hlayout
  rw [hlayout] at hmatch
  refine ⟨_, hmatch, fun position hheld => ?_, fun hnone => ?_⟩
  · obtain ⟨hspan, htext⟩ := positionSpan_of_held hheld
    rw [Layout.interpret_forest _ _ hstretch, Layout.value, hspan, Option.bind_some, htext]
    exact ⟨rfl, rfl⟩
  · rw [Layout.interpret_forest _ _ hstretch, Layout.value, positionSpan_of_not_held hnone]
    exact ⟨rfl, rfl⟩

def chair : List Token :=
  [⟨0, 14, "кафедры", .russian, none, "кафедра", .empty⟩,
    ⟨15, 17, "«", .punctuation, none, "«", .empty⟩,
    ⟨17, 25, "Ряды", .russian, none, "ряды", .empty⟩,
    ⟨25, 27, "»", .punctuation, none, "»", .empty⟩,
    ⟨28, 31, "—", .punctuation, none, "—", .empty⟩,
    ⟨32, 46, "доцента", .russian, none, "доцент", .empty⟩]

theorem department_recognized_chair :
    Named chair 0 3 ∧ Held chair 4 "доцент" ∧ ∃ m, grammar.matchAt rule chair 0 = some m ∧
      m.span = ⟨0, 6⟩ ∧ m.interpret Department = .ok ⟨"кафедры «Ряды»", some "доцент"⟩ := by
  have hnamed : Named chair 0 3 :=
    ⟨⟨_, rfl, by decide⟩, ⟨_, rfl, by decide⟩, by decide, by decide⟩
  have hheld : Held chair 4 "доцент" := ⟨⟨_, rfl, by decide⟩, ⟨_, rfl, rfl⟩, by decide⟩
  obtain ⟨m, hm, hposition, _⟩ := (department_recognized chair 0).2 3 hnamed
  obtain ⟨hspan, hvalue⟩ := hposition "доцент" hheld
  have htext : Token.join Token.text (Span.slice ⟨0, 4⟩ chair) = "кафедры «Ряды»" := by
    decide +kernel
  exact ⟨hnamed, hheld, m, hm, hspan, htext ▸ hvalue⟩

end Department

namespace Speciality

def codeEnd (tokens : List Token) (k : Nat) : Option Nat :=
  let first := afterRun isInteger tokens k
  let second := afterRun isInteger tokens (first + 1)
  let third := afterRun isInteger tokens (second + 1)
  if k < first ∧ tokens[first]?.any isPoint ∧ first + 1 < second ∧ tokens[second]?.any isPoint ∧
      second + 1 < third then
    some third
  else none

def recognizeCode (tokens : List Token) (k : Nat) : Option String × Option String × Nat :=
  match codeEnd tokens k with
  | none => (none, none, k)
  | some n =>
    let code := Token.join Token.text (Span.slice ⟨k, n⟩ tokens)
    match tokens[n]?.filter isHyphen with
    | some hyphen => (some code, some hyphen.text, n + 1)
    | none => (some code, none, n)

def recognizeName (tokens : List Token) (n : Nat) : Option (String × Nat) :=
  match tokens[n]?.filter isQuote, spanUpTo isQuote tokens (n + 1) with
  | some _, some name => some (Token.join Token.text (name.slice tokens), name.stop + 1)
  | _, _ =>
    let stop := afterRun (!endsSentence ·) tokens n
    if n < stop then some (Token.join Token.text (Span.slice ⟨n, stop⟩ tokens), stop) else none

def recognize (tokens : List Token) (k : Nat) : Option (Speciality × Nat) :=
  let (code, hyphen, n) := recognizeCode tokens k
  (recognizeName tokens n).map fun (name, stop) => (⟨code, hyphen, name⟩, stop)

theorem codeEnd_eq (tokens : List Token) (k : Nat) : codeEnd tokens k = afterCode tokens k := by
  refine Option.ext fun n => ?_
  simp only [codeEnd, afterCode, Option.bind_eq_bind, Option.bind_eq_some_iff,
    afterSome_eq_some_iff, afterToken, Option.ite_none_right_eq_some, Option.some.injEq]
  constructor
  · rintro ⟨⟨hfirst, hpoint, hsecond, hpoint', hthird⟩, rfl⟩
    exact ⟨_, ⟨hfirst, rfl⟩, _, ⟨_, ⟨hpoint, rfl⟩, hsecond, rfl⟩, _, ⟨hpoint', rfl⟩, hthird, rfl⟩
  · rintro ⟨_, ⟨hfirst, rfl⟩, _, ⟨_, ⟨hpoint, rfl⟩, hsecond, rfl⟩, _, ⟨hpoint', rfl⟩, hthird, rfl⟩
    exact ⟨⟨hfirst, hpoint, hsecond, hpoint', hthird⟩, rfl⟩

theorem lt_of_codeEnd (h : codeEnd tokens k = some n) : k < n := by
  rw [codeEnd, Option.ite_none_right_eq_some, Option.some.injEq] at h
  obtain ⟨⟨hfirst, _, hsecond, _, hthird⟩, rfl⟩ := h
  exact Nat.lt_trans hfirst (Nat.lt_trans (Nat.lt_of_succ_lt hsecond) (Nat.lt_of_succ_lt hthird))

theorem recognizeCode_eq (tokens : List Token) (k : Nat) :
    recognizeCode tokens k =
      ((locateCode tokens k).bind (·.1.text? Token.text tokens),
        (locateCode tokens k).bind (·.2.text? Token.text tokens),
        afterSpan? k ((locateCode tokens k).map (·.2))) := by
  rw [recognizeCode, locateCode, ← codeEnd_eq]
  cases hend : codeEnd tokens k with
  | none => rfl
  | some n =>
    have hcode : Span.text? Token.text tokens ⟨k, n⟩ = _ :=
      Span.text?_of_lt Token.text tokens (lt_of_codeEnd hend)
    simp only [Option.map_some, Option.bind_some, hcode, afterToken_eq]
    cases hhyphen : tokens[n]?.filter isHyphen with
    | none => rw [Option.map_none, Option.getD_none, Span.text?_empty, afterSpan?]
    | some hyphen =>
      rw [Option.map_some, Option.getD_some, afterSpan?,
        Span.text?_of_getElem? Token.text (Option.filter_eq_some_iff.1 hhyphen).1]

theorem recognizeName_eq (tokens : List Token) (n : Nat) :
    recognizeName tokens n = (locateName tokens n).map fun o =>
      (Token.join Token.text (o.1.slice tokens), o.2) := by
  have hbare : (if n < afterRun (!endsSentence ·) tokens n then
      some (Token.join Token.text (Span.slice ⟨n, afterRun (!endsSentence ·) tokens n⟩ tokens),
        afterRun (!endsSentence ·) tokens n) else none) =
      ((afterSome (!endsSentence ·) tokens n).map fun stop => ((⟨n, stop⟩ : Span), stop)).map
        fun o => (Token.join Token.text (o.1.slice tokens), o.2) := by
    rw [afterSome]
    split <;> rfl
  rw [recognizeName, locateName, quotedSpan_eq]
  -- A quotation that is empty or never closes leaves the choice to the bare name.
  cases tokens[n]?.filter isQuote with
  | none => exact hbare
  | some opening =>
    rw [Option.bind_some]
    cases spanUpTo isQuote tokens (n + 1) with
    | none => exact hbare
    | some name => rfl

theorem recognize_eq (tokens : List Token) (k : Nat) :
    recognize tokens k =
      (locate tokens k).map fun layout => (layout.value tokens, layout.span.stop) := by
  rw [recognize, locate, recognizeCode_eq]
  dsimp only
  rw [recognizeName_eq]
  cases locateName tokens (afterSpan? k ((locateCode tokens k).map (·.2))) with
  | none => rfl
  | some name =>
    cases locateCode tokens k <;> rfl

theorem locate_of_end (h : tokens.length ≤ k) : locate tokens k = none := by
  have hcode : locateCode tokens k = none := by
    rw [locateCode, afterCode, afterSome_of_end h]
    rfl
  have hname : locateName tokens k = none := by
    rw [locateName, quotedSpan, afterToken_of_end h, afterSome_of_end h]
    rfl
  rw [locate, hcode, Option.map_none, afterSpan?, hname]
  rfl

theorem code_of_hyphen (tokens : List Token) (k : Nat)
    (h : (recognizeCode tokens k).2.1.isSome) : (recognizeCode tokens k).1.isSome := by
  rw [recognizeCode] at h ⊢
  split at h
  · cases h
  · dsimp only
    split <;> rfl

/-- What the rule for specialities matches at a place, and the speciality that comes out of it. A
hyphen never comes without a code. -/
theorem speciality_recognized (tokens : List Token) (k : Nat) :
    (grammar.matchAt (.reference "speciality") tokens k).map
        (fun m => (m.span, m.interpret Speciality)) =
      (recognize tokens k).map (fun o => (⟨k, o.2⟩, .ok o.1)) ∧
    ∀ m sp, grammar.matchAt (.reference "speciality") tokens k = some m →
      m.interpret Speciality = .ok sp → sp.hyphen.isSome → sp.code.isSome := by
  have hmatch : (grammar.matchAt (.reference "speciality") tokens k).map
      (fun m => (m.span, m.interpret Speciality)) =
        (recognize tokens k).map (fun o => (⟨k, o.2⟩, .ok o.1)) := by
    rw [recognize_eq, Option.map_map]
    exact Grammar.map_matchAt_of_layout (eval_reference tokens k)
      (fun hend => locate_of_end (Nat.le_of_lt hend))
      fun layout hlayout => layout.interpret_forest _ (isStretch_of_locate hlayout)
  refine ⟨hmatch, fun m sp hm hsp hhyphen => ?_⟩
  rw [hm, Option.map_some, eq_comm, Option.map_eq_some_iff] at hmatch
  obtain ⟨o, hrecognized, he⟩ := hmatch
  obtain ⟨name, _, rfl⟩ := Option.map_eq_some_iff.1 hrecognized
  cases hsp.symm.trans (Prod.mk.inj he).2.symm
  exact code_of_hyphen tokens k hhyphen

/-- A speciality with its code, behind which the sentence goes on. -/
def coded : List Token :=
  [⟨0, 2, "01", .integer, none, "01", .empty⟩,
    ⟨2, 3, ".", .punctuation, none, ".", .empty⟩,
    ⟨3, 5, "02", .integer, none, "02", .empty⟩,
    ⟨5, 6, ".", .punctuation, none, ".", .empty⟩,
    ⟨6, 8, "03", .integer, none, "03", .empty⟩,
    ⟨9, 12, "—", .punctuation, none, "—", .empty⟩,
    ⟨13, 15, "«", .punctuation, none, "«", .empty⟩,
    ⟨15, 25, "Числа", .russian, none, "числа", .empty⟩,
    ⟨25, 27, "»", .punctuation, none, "»", .empty⟩,
    ⟨28, 30, "в", .russian, none, "в", .empty⟩]

theorem speciality_recognized_coded :
    ∃ m sp, grammar.matchAt (.reference "speciality") coded 0 = some m ∧ m.span = ⟨0, 9⟩ ∧
      m.interpret Speciality = .ok sp ∧ sp = ⟨some "01.02.03", some "—", "Числа"⟩ ∧
      sp.hyphen.isSome ∧ sp.code.isSome := by
  have hrecognized : recognize coded 0 = some (⟨some "01.02.03", some "—", "Числа"⟩, 9) := by
    decide +kernel
  obtain ⟨hmatch, hcode⟩ := speciality_recognized coded 0
  rw [hrecognized, Option.map_some, Option.map_eq_some_iff] at hmatch
  obtain ⟨m, hm, he⟩ := hmatch
  obtain ⟨hspan, hvalue⟩ := Prod.mk.inj he
  exact ⟨m, _, hm, hspan, hvalue, rfl, rfl, hcode m _ hm hvalue rfl⟩

end Speciality

namespace AcademicDegree

def recognize (tokens : List Token) (d : Nat) : Option (AcademicDegree × Nat) := do
  let word ← tokens[d]?.filter isDegree
  let branch ← spanUpTo isSciences tokens (d + 1)
  let suffix ← tokens[branch.stop]?
  some (⟨word.normal, ⟨Token.join Token.normal (branch.slice tokens)⟩, suffix.text⟩,
    branch.stop + 1)

theorem locate_eq (tokens : List Token) (d : Nat) :
    locate tokens d = (tokens[d]?.filter isDegree).bind fun _ =>
      (spanUpTo isSciences tokens (d + 1)).map fun branch =>
        ⟨⟨d, d + 1⟩, branch, ⟨branch.stop, branch.stop + 1⟩⟩ := by
  rw [locate, tokenSpan, afterToken_eq, Option.map_map]
  cases tokens[d]?.filter isDegree with
  | none => rfl
  | some word =>
    have hbranch := bind_afterSome isSciences tokens (d + 1) fun last stop =>
      some (Layout.mk ⟨d, d + 1⟩ ⟨d + 1, last⟩ ⟨last, stop⟩)
    simp only [Option.map_some, Option.bind_eq_bind, Option.bind_some, tokenSpan, Option.bind_map,
      Function.comp_def, hbranch]
    cases hspan : spanUpTo isSciences tokens (d + 1) with
    | none => rfl
    | some branch =>
      rw [Option.bind_some, Option.map_some, ← (spanUpTo_eq_some_iff.1 hspan).1]

theorem recognize_eq (tokens : List Token) (d : Nat) :
    recognize tokens d =
      (locate tokens d).map fun layout => (layout.value tokens, layout.suffix.stop) := by
  rw [recognize, locate_eq]
  simp only [Option.bind_eq_bind]
  cases hword : tokens[d]?.filter isDegree with
  | none => rfl
  | some word =>
    rw [Option.bind_some, Option.bind_some]
    cases hspan : spanUpTo isSciences tokens (d + 1) with
    | none => rfl
    | some branch =>
      have hdegree := Span.slice_of_getElem? (Option.filter_eq_some_iff.1 hword).1
      obtain ⟨_, hclosing, _⟩ := spanUpTo_eq_some_iff.1 hspan
      obtain ⟨suffix, hsuffix, _⟩ := (firstFrom_eq_some_iff.1 hclosing).2.1
      simp only [Option.bind_some, Option.map_some, hsuffix, Layout.value, hdegree,
        Span.slice_of_getElem? hsuffix, Token.join_singleton]

end AcademicDegree

namespace Thesis

/-- Whether the search for a degree ends at a token. -/
def endsSearch (token : Token) : Bool :=
  degreeWords.contains (Text.lowercase token.text) || Speciality.endsSentence token

def recognizeTitle (tokens : List Token) (s : Nat) : Option Span := do
  let _ ← tokens[s]?.filter isThesis
  let opening ← firstFrom isQuote tokens (s + 1)
  spanUpTo isQuote tokens (opening + 1)

def recognizeHead (tokens : List Token) (i : Nat) : Option (Option String × String × Nat) := do
  let kind := tokens[i]?.filter isKind
  let title ← recognizeTitle tokens (if kind.isSome then i + 1 else i)
  some (kind.map Token.text, Token.join Token.text (title.slice tokens), title.stop)

/-- The degree that is found from a place on, and the place behind it. -/
def recognizeDegree (tokens : List Token) (t : Nat) : Option (AcademicDegree × Nat) :=
  (firstFrom endsSearch tokens t).bind (AcademicDegree.recognize tokens)

def recognizeTail (tokens : List Token) (t : Nat) :
    Option (Option AcademicDegree × Speciality × Nat) := do
  let degree := recognizeDegree tokens t
  let p := (degree.map (·.2)).getD t
  let _ ← tokens[p]?.filter introducesDirection
  let _ ← tokens[p + 1]?.filter isDirection
  let (speciality, stop) ← Speciality.recognize tokens (p + 2)
  some (degree.map (·.1), speciality, stop)

def recognize (tokens : List Token) (i : Nat) : Option (Thesis × Nat) := do
  let (kind, title, closing) ← recognizeHead tokens i
  match recognizeTail tokens (closing + 1) with
  | some (degree, speciality, stop) => some (⟨kind, title, some speciality, degree⟩, stop)
  | none => some (⟨kind, title, none, none⟩, closing + 1)

theorem endsSearch_eq : endsSearch = stopsSearch := by
  have hwords : degreeWords.map Text.lowercase = degreeWords := by decide +kernel
  funext token
  rw [stopsSearch, hwords]
  rfl

theorem recognizeTitle_eq (tokens : List Token) (s : Nat) :
    recognizeTitle tokens s = (afterToken isThesis tokens s).bind fun announced =>
      quotedSpan tokens (afterRun (!isQuote ·) tokens announced) := by
  rw [recognizeTitle, afterToken_eq, Option.bind_map]
  exact congrArg _ (funext fun _ => (quotedSpan_afterRun tokens (s + 1)).symm)

theorem recognizeHead_eq (tokens : List Token) (i : Nat) :
    recognizeHead tokens i = (locateHead tokens i).map fun o =>
      (o.1.text? Token.text tokens, Token.join Token.text (o.2.slice tokens), o.2.stop) := by
  have hkind : (afterToken isKind tokens i).getD i =
        (if (tokens[i]?.filter isKind).isSome then i + 1 else i) ∧
      Span.text? Token.text tokens ⟨i, (afterToken isKind tokens i).getD i⟩ =
        (tokens[i]?.filter isKind).map Token.text := by
    rw [afterToken_eq]
    cases hfirst : tokens[i]?.filter isKind with
    | none => exact ⟨rfl, Span.text?_empty Token.text tokens i⟩
    | some first =>
      exact ⟨rfl, Span.text?_of_getElem? Token.text (Option.filter_eq_some_iff.1 hfirst).1⟩
  simp only [recognizeHead, locateHead, Option.bind_eq_bind, ← hkind.1, ← hkind.2,
    recognizeTitle_eq]
  cases afterToken isThesis tokens ((afterToken isKind tokens i).getD i) with
  | none => rfl
  | some announced =>
    rw [Option.bind_some, Option.bind_some]
    cases quotedSpan tokens (afterRun (!isQuote ·) tokens announced) <;> rfl

theorem recognizeDegree_eq (tokens : List Token) (t : Nat) :
    recognizeDegree tokens t =
      (locateDegree tokens t).map fun layout => (layout.value tokens, layout.suffix.stop) := by
  rw [recognizeDegree, locateDegree, ← AcademicDegree.recognize_eq, endsSearch_eq, firstFrom_eq]
  generalize afterRun (!stopsSearch ·) tokens t = d
  cases htoken : tokens[d]? with
  | none =>
    rw [AcademicDegree.recognize, htoken]
    rfl
  | some token => rfl

theorem recognizeTail_eq (tokens : List Token) (t : Nat) :
    recognizeTail tokens t = (locateTail tokens t).map fun tail =>
      (tail.degree.map (·.value tokens), tail.speciality.value tokens,
        tail.speciality.span.stop) := by
  have hplace : afterSpan? t ((locateDegree tokens t).map (·.suffix)) =
      ((recognizeDegree tokens t).map (·.2)).getD t := by
    rw [recognizeDegree_eq]
    cases locateDegree tokens t <;> rfl
  have hdegree : (recognizeDegree tokens t).map (·.1) =
      (locateDegree tokens t).map (·.value tokens) := by
    rw [recognizeDegree_eq, Option.map_map]
    rfl
  rw [recognizeTail, locateTail, hplace]
  simp only [Option.bind_eq_bind, hdegree, locateSpeciality, afterToken_eq]
  -- Both sides go on from the place behind the degree, and no longer look back at it.
  generalize ((recognizeDegree tokens t).map (·.2)).getD t = p
  cases tokens[p]?.filter introducesDirection with
  | none => rfl
  | some introduced =>
    rw [Option.map_some, Option.bind_some, Option.bind_some]
    cases tokens[p + 1]?.filter isDirection with
    | none => rfl
    | some direction =>
      rw [Option.map_some, Option.bind_some, Option.bind_some, Speciality.recognize_eq]
      cases Speciality.locate tokens (p + 2) <;> rfl

theorem recognize_eq (tokens : List Token) (i : Nat) :
    recognize tokens i =
      (locate tokens i).map fun layout => (layout.value tokens, layout.span.stop) := by
  rw [recognize, locate, recognizeHead_eq]
  cases locateHead tokens i with
  | none => rfl
  | some head =>
    obtain ⟨kind, title⟩ := head
    simp only [Option.map_some, Option.bind_eq_bind, Option.bind_some, recognizeTail_eq]
    cases locateTail tokens (title.stop + 1) <;> rfl

theorem locate_of_end (h : tokens.length ≤ i) : locate tokens i = none := by
  rw [locate, locateHead, afterToken_of_end h, Option.getD_none, afterToken_of_end h]
  rfl

/-- What the thesis rule matches at a place, and the thesis that comes out of it. -/
theorem thesis_recognized (tokens : List Token) (i : Nat) :
    (grammar.matchAt rule tokens i).map (fun m => (m.span, m.interpret Thesis)) =
      (recognize tokens i).map fun o => (⟨i, o.2⟩, .ok o.1) := by
  rw [recognize_eq, Option.map_map]
  exact Grammar.map_matchAt_of_layout (run_rule 254 i)
    (fun hend => locate_of_end (Nat.le_of_lt hend))
    fun layout hlayout => layout.interpret_forest _ (filled_of_locate hlayout)

end Thesis

end Academic

end FactGrammar
