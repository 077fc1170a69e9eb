import FactGrammar.Proofs.Academic.Decoding
import Mathlib.Data.Nat.Find

namespace FactGrammar.Academic.PersonName

open Recognizer

/-- The text of a token that is there, is a capitalised word and carries a feature. -/
def partText? (gram : String) (tokens : List Token) (j : Nat) : Option String :=
  (tokens[j]?.filter (isPart gram)).map Token.text

def Begins (tokens : List Token) (j : Nat) : Prop :=
  (partText? "Name" tokens j).isSome ∨ (partText? "Surn" tokens j).isSome

/-- The name that begins at a place. A surname may come before the given name and the patronymic or
behind them, and a surname before a given name is preferred where both readings are open. -/
def nameAt (tokens : List Token) (i : Nat) : PersonName :=
  if (partText? "Surn" tokens i).isSome ∧ (partText? "Name" tokens (i + 1)).isSome then
    ⟨partText? "Name" tokens (i + 1), partText? "Patr" tokens (i + 2), partText? "Surn" tokens i⟩
  else if (partText? "Name" tokens i).isSome then
    let behind := if (partText? "Patr" tokens (i + 1)).isSome then i + 2 else i + 1
    ⟨partText? "Name" tokens i, partText? "Patr" tokens (i + 1), partText? "Surn" tokens behind⟩
  else ⟨none, none, partText? "Surn" tokens i⟩

variable {gram : String} {tokens : List Token} {i p : Nat}

theorem tokenSpan_isPart (gram : String) (tokens : List Token) (p : Nat) :
    tokenSpan (isPart gram) tokens p = (partText? gram tokens p).map fun _ => ⟨p, p + 1⟩ := by
  rw [tokenSpan, afterToken_eq, partText?, Option.map_map, Option.map_map]
  rfl

theorem bind_tokenSpan_isPart (gram : String) (tokens : List Token) (p : Nat) :
    (tokenSpan (isPart gram) tokens p).bind (Span.text? Token.text tokens) =
      partText? gram tokens p := by
  rw [tokenSpan, afterToken_eq, Option.map_map, partText?]
  cases hp : tokens[p]?.filter (isPart gram) with
  | none => rfl
  | some token => exact Span.text?_of_getElem? Token.text (Option.filter_eq_some_iff.1 hp).1

theorem tokenSpan_of_part (h : (partText? gram tokens p).isSome) :
    tokenSpan (isPart gram) tokens p = some ⟨p, p + 1⟩ := by
  obtain ⟨text, htext⟩ := Option.isSome_iff_exists.1 h
  rw [tokenSpan_isPart, htext, Option.map_some]

theorem tokenSpan_of_no_part (h : ¬(partText? gram tokens p).isSome) :
    tokenSpan (isPart gram) tokens p = none := by
  rw [tokenSpan_isPart, Option.not_isSome_iff_eq_none.1 h, Option.map_none]

theorem partText?_of_end (gram : String) (hend : tokens.length ≤ p) :
    partText? gram tokens p = none := by
  rw [partText?, List.getElem?_eq_none hend]
  rfl

theorem Begins.lt_length (h : Begins tokens i) : i < tokens.length := by
  by_contra hend
  rw [Begins, partText?_of_end "Name" (Nat.not_lt.1 hend),
    partText?_of_end "Surn" (Nat.not_lt.1 hend)] at h
  rcases h with h | h
  · cases h
  · cases h

theorem locate_of_not_begins (h : ¬Begins tokens i) : locate tokens i = none := by
  obtain ⟨hname, hsurname⟩ := not_or.1 h
  rw [locate, locateSurnameFirst, locateNameFirst, locateSurname, tokenSpan_of_no_part hname,
    tokenSpan_of_no_part hsurname]
  rfl

theorem text?_of_part (h : (partText? gram tokens p).isSome) :
    Span.text? Token.text tokens ⟨p, p + 1⟩ = partText? gram tokens p := by
  have hbind := bind_tokenSpan_isPart gram tokens p
  rwa [tokenSpan_of_part h, Option.bind_some] at hbind

theorem afterSpan?_isPart (gram : String) (tokens : List Token) (p : Nat) :
    afterSpan? p (tokenSpan (isPart gram) tokens p) =
      if (partText? gram tokens p).isSome then p + 1 else p := by
  rw [tokenSpan_isPart]
  cases partText? gram tokens p <;> rfl

theorem le_afterSpan?_isPart (gram : String) (tokens : List Token) (p : Nat) :
    p ≤ afterSpan? p (tokenSpan (isPart gram) tokens p) := by
  rw [afterSpan?_isPart]
  split
  · exact Nat.le_succ p
  · exact Nat.le_refl p

theorem locateSurnameFirst_of_parts (hlast : (partText? "Surn" tokens i).isSome)
    (hfirst : (partText? "Name" tokens (i + 1)).isSome) :
    locateSurnameFirst tokens i =
      some ⟨some ⟨i, i + 1⟩, some ⟨i + 1, i + 2⟩, tokenSpan (isPart "Patr") tokens (i + 2),
        none⟩ := by
  rw [locateSurnameFirst, tokenSpan_of_part hlast]
  simp only [Option.bind_eq_bind, Option.bind_some, tokenSpan_of_part hfirst]

theorem locateSurnameFirst_eq_none
    (h : ¬((partText? "Surn" tokens i).isSome ∧ (partText? "Name" tokens (i + 1)).isSome)) :
    locateSurnameFirst tokens i = none := by
  rw [locateSurnameFirst]
  by_cases hlast : (partText? "Surn" tokens i).isSome
  · have hfirst := tokenSpan_of_no_part (not_and.1 h hlast)
    simp only [tokenSpan_of_part hlast, Option.bind_eq_bind, Option.bind_some, hfirst,
      Option.bind_none]
  · rw [tokenSpan_of_no_part hlast]
    rfl

theorem locateNameFirst_of_part (hfirst : (partText? "Name" tokens i).isSome) :
    locateNameFirst tokens i =
      some ⟨none, some ⟨i, i + 1⟩, tokenSpan (isPart "Patr") tokens (i + 1),
        tokenSpan (isPart "Surn") tokens
          (afterSpan? (i + 1) (tokenSpan (isPart "Patr") tokens (i + 1)))⟩ := by
  rw [locateNameFirst, tokenSpan_of_part hfirst]
  rfl

theorem locateNameFirst_eq_none (h : ¬(partText? "Name" tokens i).isSome) :
    locateNameFirst tokens i = none := by
  rw [locateNameFirst, tokenSpan_of_no_part h]
  rfl

theorem locateSurname_of_part (hlast : (partText? "Surn" tokens i).isSome) :
    locateSurname tokens i = some ⟨some ⟨i, i + 1⟩, none, none, none⟩ := by
  rw [locateSurname, tokenSpan_of_part hlast]
  rfl

/-- The readings are tried in turn, and nothing of a reading that fails is left in the name. -/
theorem exists_locate (h : Begins tokens i) :
    ∃ layout, locate tokens i = some layout ∧ i < layout.stop i ∧
      layout.value tokens = nameAt tokens i := by
  rw [locate, nameAt]
  by_cases hsurname : (partText? "Surn" tokens i).isSome ∧ (partText? "Name" tokens (i + 1)).isSome
  · obtain ⟨hlast, hfirst⟩ := hsurname
    have hle := le_afterSpan?_isPart "Patr" tokens (i + 2)
    rw [locateSurnameFirst_of_parts hlast hfirst, Option.some_or, if_pos ⟨hlast, hfirst⟩]
    refine ⟨_, rfl, Nat.lt_of_succ_le (Nat.le_of_succ_le hle), ?_⟩
    simp only [Layout.value, Option.none_or, Option.bind_some, text?_of_part hlast,
      text?_of_part hfirst, bind_tokenSpan_isPart]
  · rw [locateSurnameFirst_eq_none hsurname, Option.none_or, if_neg hsurname]
    by_cases hfirst : (partText? "Name" tokens i).isSome
    · have hmiddle := le_afterSpan?_isPart "Patr" tokens (i + 1)
      have hlast := le_afterSpan?_isPart "Surn" tokens
        (afterSpan? (i + 1) (tokenSpan (isPart "Patr") tokens (i + 1)))
      rw [locateNameFirst_of_part hfirst, Option.some_or, if_pos hfirst]
      refine ⟨_, rfl, Nat.le_trans hmiddle hlast, ?_⟩
      simp only [Layout.value, Option.or_none, Option.bind_some, text?_of_part hfirst,
        bind_tokenSpan_isPart, afterSpan?_isPart]
    · have hlast := h.resolve_left hfirst
      rw [locateNameFirst_eq_none hfirst, Option.none_or, locateSurname_of_part hlast,
        if_neg hfirst]
      refine ⟨_, rfl, Nat.lt_succ_self i, ?_⟩
      simp only [Layout.value, Option.none_or, Option.bind_none, Option.bind_some,
        text?_of_part hlast]

theorem matchAt_eq_map_locate (tokens : List Token) (i : Nat) :
    Grammar.empty.matchAt rule tokens i = (locate tokens i).map fun layout =>
      ⟨tokens, ⟨i, layout.stop i⟩, (layout.forest i).flatten⟩ := by
  apply Grammar.matchAt_eq_map_layout (run_rule i)
  intro hend
  apply locate_of_not_begins
  intro h
  exact Nat.lt_asymm hend h.lt_length

theorem firstPersonName_of_begins (h : Begins tokens i) (hbefore : ∀ j < i, ¬Begins tokens j) :
    firstPersonName tokens = some (nameAt tokens i) := by
  obtain ⟨layout, hlayout, hlt, hvalue⟩ := exists_locate h
  have hmatch := matchAt_eq_map_locate tokens i
  rw [hlayout, Option.map_some] at hmatch
  have hend := h.lt_length
  have hsearch : Grammar.empty.findAll rule tokens = Grammar.empty.findFrom rule tokens i := by
    apply Grammar.findFrom_of_none_before (Nat.zero_le i) (Nat.le_of_lt hend)
    intro j _ hj
    rw [matchAt_eq_map_locate, locate_of_not_begins (hbefore j hj), Option.map_none]
  rw [firstPersonName, hsearch, Grammar.findFrom_of_some hend hmatch, if_neg]
  · dsimp only
    rw [layout.interpret_forest, hvalue]
    rfl
  · rw [Span.isEmpty_eq_false_iff.2 hlt]
    exact Bool.false_ne_true

theorem firstPersonName_eq_none (h : ∀ j, ¬Begins tokens j) : firstPersonName tokens = none := by
  have hsearch : Grammar.empty.findAll rule tokens = [] := by
    rw [Grammar.findAll, Grammar.findFrom_of_none_before (Nat.zero_le _) (Nat.le_refl _),
      Grammar.findFrom_of_end (Nat.le_refl _)]
    intro j _ _
    rw [matchAt_eq_map_locate, locate_of_not_begins (h j), Option.map_none]
  rw [firstPersonName, hsearch]

theorem isSome_firstPersonName_iff :
    (firstPersonName tokens).isSome ↔ ∃ j, Begins tokens j := by
  classical
  constructor
  · intro hsome
    by_contra hnone
    rw [firstPersonName_eq_none (not_exists.1 hnone)] at hsome
    cases hsome
  · intro hbegins
    rw [firstPersonName_of_begins (Nat.find_spec hbegins) fun j => Nat.find_min hbegins]
    rfl

/-- A name is found just when a capitalised given name or surname is among the tokens. It is the
name that begins at the first of them. -/
theorem firstName_leftmost (lexicon : Lexicon) (tokens : List Token) :
    (((TokenSource.ofLexicon lexicon).firstName tokens).isSome ↔ ∃ j, Begins tokens j) ∧
      ∀ i, Begins tokens i → (∀ j < i, ¬Begins tokens j) →
        (TokenSource.ofLexicon lexicon).firstName tokens = some (nameAt tokens i) := by
  have hfirst : (TokenSource.ofLexicon lexicon).firstName = firstPersonName := rfl
  rw [hfirst]
  exact ⟨isSome_firstPersonName_iff, fun i => firstPersonName_of_begins⟩

/-- A word that is a surname as well as a given name, with a patronymic and a surname behind it. In
front of it stands a given name without a capital. -/
def ambiguous : List Token :=
  [⟨0, 8, "вера", .russian, none, "вера", .ofList ["Name"]⟩,
    ⟨9, 17, "Вера", .russian, none, "вера", .ofList ["Name", "Surn"]⟩,
    ⟨18, 34, "Петровна", .russian, none, "петровна", .ofList ["Patr"]⟩,
    ⟨35, 49, "Шульга", .russian, none, "шульга", .ofList ["Surn"]⟩]

theorem firstName_leftmost_ambiguous :
    Begins ambiguous 1 ∧ (∀ j < 1, ¬Begins ambiguous j) ∧
      (TokenSource.ofLexicon .empty).firstName ambiguous =
        some ⟨some "Вера", some "Петровна", some "Шульга"⟩ := by
  have hbegins : Begins ambiguous 1 := .inl (by decide +kernel)
  have hbefore : ∀ j < 1, ¬Begins ambiguous j := by
    intro j hj
    obtain rfl := Nat.lt_one_iff.1 hj
    exact not_or.2 ⟨by decide +kernel, by decide +kernel⟩
  refine ⟨hbegins, hbefore, ?_⟩
  rw [(firstName_leftmost .empty ambiguous).2 1 hbegins hbefore]
  decide +kernel

end FactGrammar.Academic.PersonName
