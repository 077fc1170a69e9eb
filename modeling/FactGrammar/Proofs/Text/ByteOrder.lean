import Mathlib.Tactic.ByContra
import Mathlib.Tactic.SplitIfs

namespace FactGrammar.Text

def bytes (s : String) : List UInt8 :=
  s.toUTF8.data.toList

theorem bytes_eq_flatMap (s : String) : bytes s = s.toList.flatMap String.utf8EncodeChar := by
  rw [bytes, String.toUTF8_eq_toByteArray, ← String.utf8Encode_toList, List.utf8Encode,
    List.data_toByteArray]

theorem ofNat_lt_iff {m n : Nat} (hm : m < 256) (hn : n < 256) :
    UInt8.ofNat m < UInt8.ofNat n ↔ m < n := by
  rw [UInt8.lt_iff_toNat_lt, UInt8.toNat_ofNat', UInt8.toNat_ofNat', Nat.mod_eq_of_lt hm,
    Nat.mod_eq_of_lt hn]

theorem ofNat_eq_iff {m n : Nat} (hm : m < 256) (hn : n < 256) :
    UInt8.ofNat m = UInt8.ofNat n ↔ m = n := by
  rw [← UInt8.toNat_inj, UInt8.toNat_ofNat', UInt8.toNat_ofNat', Nat.mod_eq_of_lt hm,
    Nat.mod_eq_of_lt hn]

theorem encodeChar_append_lt {c d : Char} (h : c < d) (xs ys : List UInt8) :
    String.utf8EncodeChar c ++ xs < String.utf8EncodeChar d ++ ys := by
  have hlt : c.val.toNat < d.val.toNat := h
  have hmax : d.val.toNat < 0x110000 := by
    rcases d.valid with hd | hd
    · exact Nat.lt_trans hd (by decide)
    · exact hd.2
  rw [String.utf8EncodeChar.eq_1, String.utf8EncodeChar.eq_1]
  generalize c.val.toNat = m at *
  generalize d.val.toNat = n at *
  -- The digits to base 64, each one told by the quotient before it.
  have hthird (v : Nat) : v / 4096 = v / 64 / 64 := by
    rw [Nat.div_div_eq_div_mul]
  have hfourth (v : Nat) : v / 262144 = v / 64 / 64 / 64 := by
    rw [Nat.div_div_eq_div_mul, Nat.div_div_eq_div_mul]
  simp only [hthird, hfourth]
  -- A longer code begins with a greater byte, and codes of one length compare by their digits.
  split_ifs
  all_goals
    simp (disch := omega) only [List.cons_append, List.nil_append, List.cons_lt_cons_iff,
      ofNat_lt_iff, ofNat_eq_iff]
    omega

theorem flatMap_encodeChar_lt {cs ds : List Char} (h : cs < ds) :
    cs.flatMap String.utf8EncodeChar < ds.flatMap String.utf8EncodeChar := by
  induction h with
  | @nil d ds =>
    rw [List.flatMap_nil, List.flatMap_cons]
    cases hcode : String.utf8EncodeChar d with
    | nil => exact absurd hcode String.utf8EncodeChar_ne_nil
    | cons byte rest => exact .nil
  | rel h =>
    rw [List.flatMap_cons, List.flatMap_cons]
    exact encodeChar_append_lt h _ _
  | cons _ ih =>
    rw [List.flatMap_cons, List.flatMap_cons]
    exact List.append_left_lt ih

/-- Texts are ordered as their bytes are. -/
theorem bytes_lt_iff {s t : String} : bytes s < bytes t ↔ s < t := by
  rw [bytes_eq_flatMap, bytes_eq_flatMap]
  constructor
  · intro h
    by_contra hnot
    rcases eq_or_ne t s with rfl | hne
    · exact List.lt_irrefl _ h
    · have hlt : t < s := Std.lt_of_le_of_ne (String.not_lt.1 hnot) hne
      exact List.lt_asymm h (flatMap_encodeChar_lt (String.lt_iff.1 hlt))
  · intro h
    exact flatMap_encodeChar_lt (String.lt_iff.1 h)

end FactGrammar.Text
