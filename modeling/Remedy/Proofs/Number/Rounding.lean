/-
# Whole numbers in binary floating point

A quotient is rounded to the nearest whole number, and of two that are as near to the even one
(`NearestEven`, `roundDivEven_eq_iff`).  Of a whole number that is too long, the first 53 binary
digits are kept, rounded so.  A number of 64 bits has 11 more, and one that is longer still is
too large for 64 bits whatever is kept of it, so that all numbers from 2 ^ 63 on go to the nearest
multiple of 2048, within 64 bits (`toNatWithin_ofDecimal`).
-/

import Mathlib.Data.List.TakeWhile
import Remedy.Number.Binary64
import Remedy.Proofs.Text.Numeral

namespace Remedy
namespace Binary64

/-! ### Quotients -/

section
variable {n d q k : Nat}

/-- **What a quotient is rounded to:** a whole number that differs from it by a half at most, and
is even if it does by a half. -/
structure NearestEven (n d q : Nat) : Prop where
  below : 2 * n ≤ 2 * (q * d) + d
  above : 2 * (q * d) ≤ 2 * n + d
  even : 2 * n = 2 * (q * d) + d ∨ 2 * (q * d) = 2 * n + d → q % 2 = 0

/-- Division with rounding finds the nearest integer, and of two the even one. -/
theorem nearestEven_roundDivEven (hd : 0 < d) : NearestEven n d (roundDivEven n d) := by
  have hn : n / d * d + n % d = n := Nat.div_add_mod' n d
  have hlt := Nat.mod_lt n hd
  have hsucc : (n / d + 1) * d = n / d * d + d := Nat.succ_mul _ _
  unfold roundDivEven
  simp only
  split
  · exact ⟨by omega, by omega, by omega⟩
  · split
    · exact ⟨by omega, by omega, by omega⟩
    · split
      · exact ⟨by omega, by omega, by omega⟩
      · exact ⟨by omega, by omega, by omega⟩

/-- There is one number only that a quotient is rounded to. -/
theorem NearestEven.unique {q' : Nat} (hd : 0 < d) (h : NearestEven n d q)
    (h' : NearestEven n d q') : q = q' := by
  -- two numbers would be neighbours, and the quotient in the middle between them
  have hnot : ∀ {q q'}, NearestEven n d q → NearestEven n d q' → ¬q < q' := by
    intro q q' h h' hlt
    obtain ⟨i, rfl⟩ := Nat.exists_eq_add_of_lt hlt
    obtain ⟨hbelow, -, heven⟩ := h
    obtain ⟨-, habove, heven'⟩ := h'
    have hsum : (q + i + 1) * d = q * d + i * d + d := by
      rw [Nat.add_mul, Nat.add_mul, Nat.one_mul]
    have hi : i * d = 0 := by omega
    obtain rfl : i = 0 := (Nat.mul_eq_zero.1 hi).resolve_right (Nat.ne_of_gt hd)
    have hq := heven (by omega)
    have hq' := heven' (by omega)
    omega
  exact Nat.le_antisymm (Nat.le_of_not_lt (hnot h' h)) (Nat.le_of_not_lt (hnot h h'))

/-- There is just one such integer. -/
theorem roundDivEven_eq_iff (hd : 0 < d) : roundDivEven n d = q ↔ NearestEven n d q := by
  constructor
  · rintro rfl
    exact nearestEven_roundDivEven hd
  · exact (nearestEven_roundDivEven hd).unique hd

/-- A quotient of at least a whole number is rounded to at least that. -/
theorem le_roundDivEven (hd : 0 < d) (h : k * d ≤ n) : k ≤ roundDivEven n d := by
  have hk : k ≤ n / d := (Nat.le_div_iff_mul_le hd).2 h
  unfold roundDivEven
  simp only
  split
  · exact hk
  · split
    · omega
    · split <;> omega

end

/-! ### Whole numbers -/

section
variable {n limit : Nat}

/-- A value that is a whole number is that, within the limit. -/
theorem toNatWithin_finite (m e : Nat) :
    (finite false m e).toNatWithin limit = min limit (m * 2 ^ e) := by
  have hpow : (-(e : Int)).toNat = 0 := by omega
  simp only [toNatWithin, Bool.false_eq_true, if_false, Int.toNat_natCast, hpow, Nat.pow_eq,
    Nat.pow_zero]
  omega

/-- The binary logarithm of a fraction that is whole. -/
theorem log2Div_one (h : n ≠ 0) : log2Div n 1 = n.log2 := by
  have hone : Nat.log2 1 = 0 := by decide
  have hnonneg : (-(n.log2 : Int)).toNat = 0 := by omega
  have hle : 1 * 2 ^ n.log2 ≤ n * 2 ^ 0 := by
    rw [Nat.one_mul, Nat.pow_zero, Nat.mul_one]
    exact Nat.log2_self_le h
  rw [log2Div]
  simp only [hone, Int.natCast_zero, Int.sub_zero, Int.toNat_natCast, hnonneg]
  exact if_pos hle

/-- **Of a whole number of 53 binary digits or more, 53 are kept,** unless it is beyond all finite
values. -/
theorem ofRatio_one (h : 2 ^ 52 ≤ n) :
    (∃ m e : Nat, ofRatio false n 1 = .finite false m e ∧
      m * 2 ^ e = roundDivEven n (2 ^ (n.log2 - 52)) * 2 ^ (n.log2 - 52)) ∨
    ofRatio false n 1 = .infinite false ∧ 971 ≤ n.log2 - 52 := by
  have hne : n ≠ 0 := by
    rintro rfl
    exact absurd h (by decide)
  have hlog : 52 ≤ n.log2 := (Nat.le_log2 hne).2 h
  have hfits : ∀ m e : Nat,
      (if maxExponent < (e : Int) then infinite false else finite false m e) = finite false m e ∨
      (if maxExponent < (e : Int) then infinite false else finite false m e) = infinite false ∧
        971 < e := by
    intro m e
    by_cases he : maxExponent < (e : Int)
    · refine .inr ⟨if_pos he, ?_⟩
      unfold maxExponent at he
      omega
    · exact .inl (if_neg he)
  generalize hk : n.log2 - 52 = k
  have he : max minExponent (log2Div n 1 - 52) = (k : Int) := by
    rw [log2Div_one hne, minExponent]
    omega
  have hneg : (-(k : Int)).toNat = 0 := by omega
  rw [ofRatio]
  simp only [he, hneg, Int.toNat_natCast, Nat.pow_eq, Nat.pow_zero, Nat.mul_one, Nat.one_mul]
  by_cases hm : roundDivEven n (2 ^ k) = 2 ^ 53
  · -- one digit more has come of the rounding, and the last of them is a zero
    have hvalue : 2 ^ 52 * 2 ^ (k + 1) = roundDivEven n (2 ^ k) * 2 ^ k := by
      rw [hm, ← Nat.pow_add, ← Nat.pow_add]
      congr 1
      omega
    simp only [if_pos hm]
    rcases hfits (2 ^ 52) (k + 1) with hfinite | ⟨hinfinite, hlarge⟩
    · exact .inl ⟨2 ^ 52, k + 1, hfinite, hvalue⟩
    · exact .inr ⟨hinfinite, by omega⟩
  · simp only [if_neg hm]
    rcases hfits (roundDivEven n (2 ^ k)) k with hfinite | ⟨hinfinite, hlarge⟩
    · exact .inl ⟨_, k, hfinite, rfl⟩
    · exact .inr ⟨hinfinite, by omega⟩

/-- What is kept of a whole number has as many digits at least. -/
theorem two_pow_le_kept {k : Nat} (hk : k ≤ n.log2) (hne : n ≠ 0) :
    2 ^ n.log2 ≤ roundDivEven n (2 ^ k) * 2 ^ k := by
  have hsplit : 2 ^ (n.log2 - k) * 2 ^ k = 2 ^ n.log2 := by
    rw [← Nat.pow_add, Nat.sub_add_cancel hk]
  have hkept : 2 ^ (n.log2 - k) ≤ roundDivEven n (2 ^ k) :=
    le_roundDivEven (Nat.two_pow_pos k) (by rw [hsplit]; exact Nat.log2_self_le hne)
  rw [← hsplit]
  exact Nat.mul_le_mul_right _ hkept

/-- **Digits are read as the value that is nearest to their number.** -/
theorem read?_of_digits {cs : List Char} (h : Text.digitsValue? cs = some n) :
    read? cs = some (ofDecimal false n 0) := by
  obtain ⟨hne, hdigits, hvalue⟩ := Text.digitsValue?_eq_some_iff.1 h
  have hword : ∀ word : String, word.toList.all Char.isDigit = false → String.ofList cs ≠ word := by
    rintro word hword rfl
    rw [String.toList_ofList] at hword
    exact Text.ne_of_digits h hword rfl
  have htake : cs.takeWhile Char.isDigit = cs := List.takeWhile_eq_self_iff.2 hdigits
  have hdrop : cs.dropWhile Char.isDigit = [] := List.dropWhile_eq_nil_iff.2 hdigits
  have hempty : cs.isEmpty = false := List.isEmpty_eq_false_iff.2 hne
  have hunsigned : readUnsigned? false cs = some (ofDecimal false n 0) := by
    simp only [readUnsigned?, Text.map_toLower_of_digits hdigits]
    rw [if_neg (by simp [hword "inf" (by decide), hword "infinity" (by decide)]),
      if_neg (hword "nan" (by decide))]
    simp only [readDecimal?, htake, hdrop, fraction, hempty, List.append_nil, hvalue]
    rfl
  unfold read?
  split
  · exact absurd rfl (Text.ne_of_digits h rfl)
  · exact absurd rfl (Text.ne_of_digits h rfl)
  · exact hunsigned

end

/-! ### Whole numbers of 64 bits -/

section
variable {n q : Nat} (hq : NearestEven n 2048 q)
include hq

/-- Beyond 64 bits it does not matter what is kept. -/
theorem min_of_long (hn : 2 ^ 64 ≤ n) {v : Nat} (hv : Text.maxU64 ≤ v) :
    min Text.maxU64 v = min Text.maxU64 (q * 2048) := by
  have hbelow := hq.below
  unfold Text.maxU64 at hv ⊢
  omega

/-- What is too great for a number of 64 bits is read as the greatest of them. -/
theorem toNatWithin_infinite (hn : 2 ^ 64 ≤ n) :
    (infinite false).toNatWithin Text.maxU64 = min Text.maxU64 (q * 2048) :=
  (Nat.min_self _).symm.trans (min_of_long hq hn (Nat.le_refl _))

/-- A whole number from 2 ^ 63 on is rounded to a multiple of 2048. -/
theorem toNatWithin_ofRatio (h : 2 ^ 63 ≤ n) :
    (ofRatio false n 1).toNatWithin Text.maxU64 = min Text.maxU64 (q * 2048) := by
  have hne : n ≠ 0 := by
    rintro rfl
    exact absurd h (by decide)
  have hlog : 63 ≤ n.log2 := (Nat.le_log2 hne).2 h
  have hlong : 64 ≤ n.log2 → 2 ^ 64 ≤ n := (Nat.le_log2 hne).1
  rcases ofRatio_one (Nat.le_trans (by decide) h) with ⟨m, e, hfinite, hvalue⟩ | ⟨hinfinite, he⟩
  · rw [hfinite, toNatWithin_finite, hvalue]
    by_cases hn : n.log2 = 63
    · have hunit : 2 ^ (63 - 52) = 2048 := by decide
      rw [hn, hunit, (roundDivEven_eq_iff (by decide)).2 hq]
    · have hpow : 2 ^ 64 ≤ 2 ^ n.log2 := Nat.pow_le_pow_right (by decide) (by omega)
      have hkept := Nat.le_trans hpow (two_pow_le_kept (k := n.log2 - 52) (by omega) hne)
      exact min_of_long hq (hlong (by omega)) (Nat.le_trans (by decide) hkept)
  · rw [hinfinite]
    exact toNatWithin_infinite hq (hlong (by omega))

/-- **A whole number from 2 ^ 63 on becomes the nearest multiple of 2048,** within 64 bits. -/
theorem toNatWithin_ofDecimal (h : 2 ^ 63 ≤ n) :
    (ofDecimal false n 0).toNatWithin Text.maxU64 = min Text.maxU64 (q * 2048) := by
  have hne : n ≠ 0 := by
    rintro rfl
    exact absurd h (by decide)
  rw [ofDecimal]
  simp only [hne, decide_false, Bool.false_or, Int.zero_add]
  rw [if_neg (by rw [decide_eq_true_eq]; omega)]
  split
  · next hdigits =>
    have hten : 10 ^ 20 ≤ n := by
      refine Nat.le_of_not_lt fun hlt => ?_
      have hlength : decimalLength n ≤ 20 :=
        (Nat.length_toDigits_le_iff (by decide) (by decide)).2 hlt
      omega
    exact toNatWithin_infinite hq (Nat.le_trans (by decide) hten)
  · rw [Int.toNat_zero, Nat.pow_eq, Nat.pow_zero, Nat.mul_one]
    exact toNatWithin_ofRatio hq h

/-- It stays what it is if it is such a multiple, or the greatest number of 64 bits. -/
theorem min_eq_self_iff :
    min Text.maxU64 (q * 2048) = n ↔ (2048 ∣ n ∧ n ≤ Text.maxU64) ∨ n = Text.maxU64 := by
  obtain ⟨hbelow, habove, -⟩ := hq
  unfold Text.maxU64
  omega

end

end Binary64
end Remedy
