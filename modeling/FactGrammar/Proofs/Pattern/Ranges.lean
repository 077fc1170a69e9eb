import FactGrammar.Pattern.Predicate
import Mathlib.Algebra.Group.Int.Defs

namespace FactGrammar

namespace Text

variable {negative : Bool} {cs : List Char} {m n : Nat} {v : Int}

/-- A text is one or more ASCII digits, perhaps after a sign, and has this value. -/
inductive IsNumeral : List Char → Int → Prop where
  | unsigned (hne : digits ≠ []) (hdigits : ∀ c ∈ digits, c.isDigit = true) :
    IsNumeral digits (Nat.ofDigitChars 10 digits 0)
  | plus (hne : digits ≠ []) (hdigits : ∀ c ∈ digits, c.isDigit = true) :
    IsNumeral ('+' :: digits) (Nat.ofDigitChars 10 digits 0)
  | minus (hne : digits ≠ []) (hdigits : ∀ c ∈ digits, c.isDigit = true) :
    IsNumeral ('-' :: digits) (-Nat.ofDigitChars 10 digits 0)

def withSign : Bool → Nat → Int
  | true, n => -n
  | false, n => n

theorem isNumeral_minus_iff :
    IsNumeral ('-' :: digits) v ↔
      digits ≠ [] ∧ (∀ c ∈ digits, c.isDigit = true) ∧
        v = withSign true (Nat.ofDigitChars 10 digits 0) := by
  constructor
  · intro h
    cases h with
    | unsigned _ hdigits => exact absurd (hdigits '-' List.mem_cons_self) (by decide)
    | minus hne hdigits => exact ⟨hne, hdigits, rfl⟩
  · rintro ⟨hne, hdigits, rfl⟩
    exact .minus hne hdigits

theorem isNumeral_plus_iff :
    IsNumeral ('+' :: digits) v ↔
      digits ≠ [] ∧ (∀ c ∈ digits, c.isDigit = true) ∧
        v = withSign false (Nat.ofDigitChars 10 digits 0) := by
  constructor
  · intro h
    cases h with
    | unsigned _ hdigits => exact absurd (hdigits '+' List.mem_cons_self) (by decide)
    | plus hne hdigits => exact ⟨hne, hdigits, rfl⟩
  · rintro ⟨hne, hdigits, rfl⟩
    exact .plus hne hdigits

theorem isNumeral_unsigned_iff (hminus : ∀ rest, cs ≠ '-' :: rest)
    (hplus : ∀ rest, cs ≠ '+' :: rest) :
    IsNumeral cs v ↔
      cs ≠ [] ∧ (∀ c ∈ cs, c.isDigit = true) ∧
        v = withSign false (Nat.ofDigitChars 10 cs 0) := by
  constructor
  · intro h
    cases h with
    | unsigned hne hdigits => exact ⟨hne, hdigits, rfl⟩
    | plus => exact absurd rfl (hplus _)
    | minus => exact absurd rfl (hminus _)
  · rintro ⟨hne, hdigits, rfl⟩
    exact .unsigned hne hdigits

theorem IsNumeral.unique (h : IsNumeral cs v) (h' : IsNumeral cs v') : v = v' := by
  cases h with
  | unsigned hne hdigits =>
    have hsign {c : Char} (hc : ¬ c.isDigit = true) (rest : List Char) : cs ≠ c :: rest := by
      rintro rfl
      exact hc (hdigits c List.mem_cons_self)
    exact ((isNumeral_unsigned_iff (hsign (by decide)) (hsign (by decide))).1 h').2.2.symm
  | plus => exact (isNumeral_plus_iff.1 h').2.2.symm
  | minus => exact (isNumeral_minus_iff.1 h').2.2.symm

theorem fitsInt64_iff : fitsInt64 v = true ↔ -2 ^ 63 ≤ v ∧ v < 2 ^ 63 := by
  rw [fitsInt64, Int64.toInt_minValue, Int64.toInt_maxValue, Bool.and_eq_true, decide_eq_true_iff,
    decide_eq_true_iff]
  omega

/-- What lies nearer to zero fits as well. -/
theorem fitsInt64_withSign_of_le (hle : m ≤ n) (h : fitsInt64 (withSign negative n) = true) :
    fitsInt64 (withSign negative m) = true := by
  rw [fitsInt64_iff] at h ⊢
  cases negative <;> simp only [withSign] at h ⊢ <;> omega

theorem le_ofDigitChars (cs : List Char) (n : Nat) : n ≤ Nat.ofDigitChars 10 cs n := by
  induction cs generalizing n with
  | nil => exact Nat.le_of_eq Nat.ofDigitChars_nil.symm
  | cons c rest ih =>
    rw [Nat.ofDigitChars_cons]
    exact Nat.le_trans (by omega) (ih _)

theorem readDigits_cons (hc : c.isDigit = true) (rest : List Char) :
    readDigits negative (withSign negative n) (c :: rest) =
      if fitsInt64 (withSign negative (10 * n + (c.toNat - '0'.toNat))) then
        readDigits negative (withSign negative (10 * n + (c.toNat - '0'.toNat))) rest
      else none := by
  have hnext : (if negative then withSign negative n * 10 - (c.toNat - '0'.toNat : Nat)
      else withSign negative n * 10 + (c.toNat - '0'.toNat : Nat)) =
        withSign negative (10 * n + (c.toNat - '0'.toNat)) := by
    cases negative <;> simp only [withSign] <;> grind
  rw [readDigits, digitValue?, if_pos hc, Option.bind_eq_bind, Option.bind_some]
  dsimp only
  rw [hnext]

/-- Digits are read if the value of all of them fits. -/
theorem readDigits_eq_some_iff (hfits : fitsInt64 (withSign negative n) = true) :
    readDigits negative (withSign negative n) cs = some v ↔
      (∀ c ∈ cs, c.isDigit = true) ∧ v = withSign negative (Nat.ofDigitChars 10 cs n) ∧
        fitsInt64 v = true := by
  induction cs generalizing n with
  | nil =>
    rw [readDigits, Nat.ofDigitChars_nil, Option.some_inj]
    constructor
    · rintro rfl
      exact ⟨List.forall_mem_nil _, rfl, hfits⟩
    · rintro ⟨_, rfl, _⟩
      rfl
  | cons c rest ih =>
    rw [List.forall_mem_cons, Nat.ofDigitChars_cons]
    by_cases hc : c.isDigit = true
    · rw [readDigits_cons hc]
      by_cases hnext : fitsInt64 (withSign negative (10 * n + (c.toNat - '0'.toNat))) = true
      · rw [if_pos hnext, ih hnext, and_iff_right hc]
      · -- What does not fit after this digit fits after none of the others.
        rw [if_neg hnext]
        constructor
        · intro h
          cases h
        · rintro ⟨_, rfl, hv⟩
          exact absurd (fitsInt64_withSign_of_le (le_ofDigitChars rest _) hv) hnext
    · rw [readDigits, digitValue?, if_neg hc]
      constructor
      · intro h
        cases h
      · rintro ⟨⟨hdigit, _⟩, _⟩
        exact absurd hdigit hc

theorem readMagnitude_eq_some_iff :
    readMagnitude negative cs = some v ↔
      cs ≠ [] ∧ (∀ c ∈ cs, c.isDigit = true) ∧
        v = withSign negative (Nat.ofDigitChars 10 cs 0) ∧ fitsInt64 v = true := by
  cases cs with
  | nil =>
    constructor
    · intro h
      cases h
    · rintro ⟨hne, _⟩
      exact absurd rfl hne
  | cons c rest =>
    have hzero : (0 : Int) = withSign negative 0 := by cases negative <;> rfl
    rw [readMagnitude, hzero, readDigits_eq_some_iff (hzero ▸ by decide),
      and_iff_right (List.cons_ne_nil c rest)]
    exact List.cons_ne_nil c rest

/-- The reader accepts just the numerals whose value fits, and gives this value. -/
theorem readNumeral_eq_some_iff :
    readNumeral cs = some v ↔ IsNumeral cs v ∧ fitsInt64 v = true := by
  unfold readNumeral
  split <;> rw [readMagnitude_eq_some_iff]
  · rw [isNumeral_minus_iff, and_assoc, and_assoc]
  · rw [isNumeral_plus_iff, and_assoc, and_assoc]
  · rename_i hminus hplus
    rw [isNumeral_unsigned_iff hminus hplus, and_assoc, and_assoc]

theorem readInt64_eq_some_iff {s : String} {v : Int64} :
    readInt64 s = some v ↔ IsNumeral s.toList v.toInt := by
  rw [readInt64, Option.map_eq_some_iff]
  constructor
  · rintro ⟨n, hread, rfl⟩
    obtain ⟨hnumeral, hfits⟩ := readNumeral_eq_some_iff.1 hread
    obtain ⟨hle, hlt⟩ := fitsInt64_iff.1 hfits
    rwa [Int64.toInt_ofInt_of_le hle hlt]
  · intro hnumeral
    have hfits : fitsInt64 v.toInt = true := fitsInt64_iff.2 ⟨v.le_toInt, v.toInt_lt⟩
    exact ⟨v.toInt, readNumeral_eq_some_iff.2 ⟨hnumeral, hfits⟩, v.ofInt_toInt⟩

end Text

namespace Predicate

open Text

variable {token : Token} {min max n : Int64} {v : Int}

/-- The test for a range passes just the integers whose value lies in it. -/
theorem test_range_iff :
    (range min max).test token = true ↔
      token.kind = .integer ∧
        ∃ v, IsNumeral token.text.toList v ∧ min.toInt ≤ v ∧ v ≤ max.toInt := by
  rw [test, Bool.and_eq_true, beq_iff_eq]
  refine and_congr_right fun _ => ?_
  constructor
  · intro htest
    split at htest
    · rename_i v hread
      obtain ⟨hmin, hmax⟩ := Bool.and_eq_true_iff.1 htest
      exact ⟨v.toInt, readInt64_eq_some_iff.1 hread,
        Int64.le_iff_toInt_le.1 (of_decide_eq_true hmin),
        Int64.le_iff_toInt_le.1 (of_decide_eq_true hmax)⟩
    · cases htest
  · rintro ⟨v, hnumeral, hmin, hmax⟩
    have hle : -2 ^ 63 ≤ v := Int.le_trans min.le_toInt hmin
    have hlt : v < 2 ^ 63 := Int.lt_of_le_of_lt hmax max.toInt_lt
    rw [← Int64.toInt_ofInt_of_le hle hlt] at hnumeral hmin hmax
    rw [readInt64_eq_some_iff.2 hnumeral]
    exact Bool.and_eq_true_iff.2 ⟨decide_eq_true (Int64.le_iff_toInt_le.2 hmin),
      decide_eq_true (Int64.le_iff_toInt_le.2 hmax)⟩

theorem test_range_of_numeral (hkind : token.kind = .integer)
    (hnumeral : IsNumeral token.text.toList v) :
    (range min max).test token = true ↔ min.toInt ≤ v ∧ v ≤ max.toInt := by
  rw [test_range_iff, and_iff_right hkind]
  constructor
  · rintro ⟨v', hnumeral', hrange⟩
    rwa [hnumeral.unique hnumeral']
  · intro hrange
    exact ⟨v, hnumeral, hrange⟩

theorem toInt_sub_one (h : Int64.minValue < n) : (n - 1).toInt = n.toInt - 1 := by
  have hlt := Int64.lt_iff_toInt_lt.1 h
  have hle := n.toInt_lt
  rw [Int64.toInt_minValue] at hlt
  rw [Int64.toInt_sub, Int64.toInt_one]
  exact Int.bmod_eq_of_le (by omega) (by omega)

/-- A range passes just the integers whose value lies between its bounds. A numeral whose value does
not fit into 64 bits passes no range, and of two half-open ranges that meet every other one passes
one and not the other. -/
theorem ranges_exact (token : Token) :
    (∀ min max : Int64, (range min max).test token = true ↔
        token.kind = .integer ∧
          ∃ v, IsNumeral token.text.toList v ∧ min.toInt ≤ v ∧ v ≤ max.toInt) ∧
      ∀ v, IsNumeral token.text.toList v →
        (v < -2 ^ 63 ∨ 2 ^ 63 ≤ v → ∀ min max : Int64, (range min max).test token = false ∧
            (atLeast min).test token = false ∧ (atMost max).test token = false) ∧
          (token.kind = .integer → -2 ^ 63 ≤ v → v < 2 ^ 63 → ∀ n, Int64.minValue < n →
            (atLeast n).test token = !(atMost (n - 1)).test token) := by
  refine ⟨fun min max => test_range_iff, ?_⟩
  intro v hnumeral
  constructor
  · intro hout
    have hnone (min max : Int64) : (range min max).test token = false := by
      rw [← Bool.not_eq_true, test_range_iff]
      rintro ⟨_, v', hnumeral', hmin, hmax⟩
      obtain rfl := hnumeral.unique hnumeral'
      have := min.le_toInt
      have := max.toInt_lt
      omega
    intro min max
    exact ⟨hnone min max, hnone min .maxValue, hnone .minValue max⟩
  · intro hkind hle hlt n hn
    rw [Bool.eq_not, ne_eq, Bool.eq_iff_iff, atLeast, atMost, test_range_of_numeral hkind hnumeral,
      test_range_of_numeral hkind hnumeral, toInt_sub_one hn, Int64.toInt_minValue,
      Int64.toInt_maxValue]
    omega

def leastNumeral : Token :=
  ⟨0, 23, "-0009223372036854775808", .integer, none, "-0009223372036854775808", .empty⟩

def excessNumeral : Token :=
  ⟨0, 20, "+9223372036854775808", .integer, none, "+9223372036854775808", .empty⟩

theorem ranges_exact_extremes :
    (range Int64.minValue 0).test leastNumeral = true ∧
      (atLeast 0).test leastNumeral = !(atMost (0 - 1)).test leastNumeral ∧
      (atLeast 0).test excessNumeral = false := by
  have hleast : IsNumeral leastNumeral.text.toList (-2 ^ 63) :=
    .minus (by decide) (List.all_eq_true.1 (by decide))
  have hexcess : IsNumeral excessNumeral.text.toList (2 ^ 63) :=
    .plus (by decide) (List.all_eq_true.1 (by decide))
  obtain ⟨hrange, hnumeral⟩ := ranges_exact leastNumeral
  refine ⟨?_, ?_, ?_⟩
  · exact (hrange .minValue 0).2 ⟨rfl, _, hleast, by decide, by decide⟩
  · exact (hnumeral _ hleast).2 rfl (by decide) (by decide) 0 (by decide)
  · exact (((ranges_exact excessNumeral).2 _ hexcess).1 (.inr (by decide)) 0 0).2.1

end Predicate

end FactGrammar
