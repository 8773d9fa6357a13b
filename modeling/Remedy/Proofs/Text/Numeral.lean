/-
# Numerals as they are printed

A number is printed without a sign, or with a minus, and without a superfluous zero.  Readers
of numbers take more than that: what spells a natural number is what is printed for it, with any
zeros in front and perhaps a plus (`Spells.exists_zeros`).  But among all the digits that denote a
number only those that are printed for it do without such a zero (`toDigits_digitsValue_iff`), and
so a text that denotes a signed number is what is printed for it if and only if it is a plain
numeral (`toString_signed?_iff`).

A reader that goes digit by digit and stops past a limit takes neither more nor less than one that
compares the whole number with the limit (`toOption_readUnsigned`).
-/

import Mathlib.Algebra.Group.Int.Defs
import Mathlib.Algebra.Group.Nat.Defs
import Remedy.Proofs.Results
import Remedy.Text.Numeral

namespace Remedy
namespace Text

/-! ### Digits -/

/-- A number is shown by its digits. -/
theorem toList_toString (n : Nat) : (toString n).toList = Nat.toDigits 10 n := by
  rw [Nat.toString_eq_repr, Nat.toList_repr]

/-- Both readings of digits are the same. -/
theorem ofDigitChars_eq_digitsValue (ds : List Char) :
    Nat.ofDigitChars 10 ds 0 = digitsValue ds := by
  rw [Nat.ofDigitChars_eq_foldl]
  rfl

/-- **The digits of a number denote it.** -/
theorem digitsValue_toDigits (n : Nat) : digitsValue (Nat.toDigits 10 n) = n := by
  rw [← ofDigitChars_eq_digitsValue, Nat.ofDigitChars_ten_toDigits]

/-- A number is written in digits. -/
theorem isDigit_toDigits (n : Nat) : ∀ c ∈ Nat.toDigits 10 n, c.isDigit = true :=
  fun _ hc => Nat.isDigit_of_mem_toDigits (by decide) (by decide) hc

/-- What is read as digits. -/
theorem digitsValue?_eq_some_iff {cs : List Char} {n : Nat} :
    digitsValue? cs = some n ↔ cs ≠ [] ∧ (∀ c ∈ cs, c.isDigit = true) ∧ digitsValue cs = n := by
  rw [digitsValue?]
  split
  · next h =>
    rw [Option.some.injEq]
    exact ⟨fun hn => ⟨h.1, List.all_eq_true.1 h.2, hn⟩, fun hn => hn.2.2⟩
  · next h =>
    constructor
    · intro hn
      cases hn
    · rintro ⟨hne, hdigits, -⟩
      exact absurd ⟨hne, List.all_eq_true.2 hdigits⟩ h

/-- The digits of a number are read back. -/
theorem digitsValue?_toDigits (n : Nat) : digitsValue? (Nat.toDigits 10 n) = some n :=
  digitsValue?_eq_some_iff.2 ⟨Nat.toDigits_ne_nil, isDigit_toDigits n, digitsValue_toDigits n⟩

/-- Digits are not what holds anything else. -/
theorem ne_of_digits {cs ds : List Char} {n : Nat} (h : digitsValue? cs = some n)
    (hds : ds.all Char.isDigit = false) : cs ≠ ds := by
  rintro rfl
  rw [List.all_eq_true.2 (digitsValue?_eq_some_iff.1 h).2.1] at hds
  cases hds

/-- Digits do not begin with a sign. -/
theorem dropPlus_of_digits {cs : List Char} {n : Nat} (h : digitsValue? cs = some n) :
    dropPlus cs = cs := by
  unfold dropPlus
  split
  · exact absurd rfl (ne_of_digits h rfl)
  · rfl

/-- **Digits are read as their number,** unless it is too large. -/
theorem unsigned?_of_digits {limit n : Nat} {cs : List Char} (h : digitsValue? cs = some n) :
    unsigned? limit cs = if n ≤ limit then some n else none := by
  rw [unsigned?, dropPlus_of_digits h, h, Option.filter_some]
  simp only [decide_eq_true_eq]

/-- Digits are read as a signed number within its bounds. -/
theorem signed?_of_digits {cs : List Char} {n : Nat} (h : digitsValue? cs = some n) :
    signed? cs = if n < 2 ^ 63 then some (n : Int) else none := by
  unfold signed?
  split
  · exact absurd rfl (ne_of_digits h rfl)
  · rw [dropPlus_of_digits h, h, Option.filter_some]
    simp only [decide_eq_true_eq, Nat.pow_eq]
    split <;> rfl

/-- **A number is read back from its text,** unless it is too large. -/
theorem unsigned?_toString {limit n : Nat} (h : n ≤ limit) :
    unsigned? limit (toString n).toList = some n := by
  rw [toList_toString, unsigned?_of_digits (digitsValue?_toDigits n), if_pos h]

/-- A digit is one of ten characters. -/
theorem isDigit_bounds {c : Char} (h : c.isDigit = true) : 48 ≤ c.toNat ∧ c.toNat ≤ 57 := by
  change (decide (48 ≤ c.toNat) && decide (c.toNat ≤ 57)) = true at h
  rw [Bool.and_eq_true, decide_eq_true_eq, decide_eq_true_eq] at h
  exact h

/-- A digit is no capital. -/
theorem toLower_of_isDigit {c : Char} (h : c.isDigit = true) : c.toLower = c := by
  unfold Char.toLower
  refine dif_neg fun hcapital => ?_
  have hlow : 65 ≤ c.toNat := hcapital.1
  have hhigh := (isDigit_bounds h).2
  omega

/-- Digits have no case. -/
theorem map_toLower_of_digits {cs : List Char} (h : ∀ c ∈ cs, c.isDigit = true) :
    cs.map Char.toLower = cs :=
  (List.map_congr_left fun c hc => toLower_of_isDigit (h c hc)).trans (List.map_id' cs)

/-- The digit of a number below ten that a character stands for. -/
theorem toDigits_sub_of_isDigit {c : Char} (h : c.isDigit = true) :
    Nat.toDigits 10 (c.toNat - 48) = [c] := by
  obtain ⟨hlow, hhigh⟩ := isDigit_bounds h
  have hchar : Nat.digitChar (c.toNat - 48) = c := by
    rw [← Char.toNat_inj, Nat.toNat_digitChar_of_lt_ten (by omega)]
    omega
  rw [Nat.toDigits_of_lt_base (by omega), hchar]

/-- Digits that follow those of a positive number are digits of the number that they make. -/
theorem toDigits_foldl {cs : List Char} (hcs : ∀ c ∈ cs, c.isDigit = true) {n : Nat} (hn : 0 < n) :
    Nat.toDigits 10 (cs.foldl appendDigit n) = Nat.toDigits 10 n ++ cs := by
  induction cs generalizing n with
  | nil => rw [List.foldl_nil, List.append_nil]
  | cons c cs ih =>
    obtain ⟨hc, hcs⟩ := List.forall_mem_cons.1 hcs
    obtain ⟨hlow, hhigh⟩ := isDigit_bounds hc
    have hdigit : Nat.toDigits 10 (appendDigit n c) = Nat.toDigits 10 n ++ [c] := by
      rw [appendDigit, ← Nat.toDigits_append_toDigits (by decide) hn (by omega),
        toDigits_sub_of_isDigit hc]
    rw [List.foldl_cons, ih hcs (by unfold appendDigit; omega), hdigit, List.append_assoc]
    rfl

/-- The digits of a number do not begin with a zero, unless it is zero. -/
theorem head?_toDigits {n : Nat} (h : 0 < n) : (Nat.toDigits 10 n).head? ≠ some '0' := by
  induction n using Nat.strongRecOn with
  | ind n ih =>
  by_cases hn : n < 10
  · rw [Nat.toDigits_of_lt_base hn, List.head?_cons]
    intro hzero
    have := Nat.digitChar_eq_zero.1 (Option.some.inj hzero)
    omega
  · obtain ⟨c, cs, hcs⟩ := List.exists_cons_of_ne_nil (Nat.toDigits_ne_nil (b := 10) (n := n / 10))
    have hhead := ih (n / 10) (by omega) (by omega)
    rw [Nat.toDigits_of_base_le (by decide) (by omega), hcs]
    rw [hcs] at hhead
    exact hhead

/-! ### Numbers without a sign -/

/-- **Whether a text spells a natural number:** digits for it, with any zeros in front, perhaps
after one plus. -/
def Spells (cs : List Char) (n : Nat) : Prop :=
  ∃ ds, (cs = ds ∨ cs = '+' :: ds) ∧ ds ≠ [] ∧ (∀ c ∈ ds, c.isDigit = true) ∧
    Nat.ofDigitChars 10 ds 0 = n

section
variable {cs : List Char} {n : Nat}

/-- A number is spelled by digits after a plus or without one. -/
theorem spells_iff : Spells cs n ↔ digitsValue? (dropPlus cs) = some n := by
  constructor
  · rintro ⟨ds, hcs, hne, hdigits, hn⟩
    rw [ofDigitChars_eq_digitsValue] at hn
    have hds : digitsValue? ds = some n := digitsValue?_eq_some_iff.2 ⟨hne, hdigits, hn⟩
    rcases hcs with rfl | rfl
    · rw [dropPlus_of_digits hds, hds]
    · exact hds
  · intro h
    obtain ⟨hne, hdigits, hn⟩ := digitsValue?_eq_some_iff.1 h
    refine ⟨dropPlus cs, ?_, hne, hdigits, (ofDigitChars_eq_digitsValue _).trans hn⟩
    unfold dropPlus
    split
    · exact .inr rfl
    · exact .inl rfl

/-- **What is read as a number up to a limit** is what spells one, if it is not too large. -/
theorem unsigned?_eq_some_iff {limit : Nat} : unsigned? limit cs = some n ↔ Spells cs n ∧ n ≤ limit := by
  rw [unsigned?, Option.filter_eq_some_iff, spells_iff, decide_eq_true_eq]

/-- Digits that follow make no number smaller. -/
theorem le_foldl_appendDigit (cs : List Char) (value : Nat) :
    value ≤ cs.foldl appendDigit value := by
  induction cs generalizing value with
  | nil => exact Nat.le_refl value
  | cons c cs ih =>
    have hdigit : value ≤ appendDigit value c := by unfold appendDigit; omega
    exact Nat.le_trans hdigit (ih _)

/-- Reading digit by digit stops at the first digit that takes the number past the limit.  No
further digit takes it back, and so nothing that is within the limit is refused. -/
theorem readDigits_eq_ok_iff {limit value : Nat} (h : value ≤ limit) :
    readDigits limit value cs = .ok n ↔
      (∀ c ∈ cs, c.isDigit = true) ∧ cs.foldl appendDigit value = n ∧ n ≤ limit := by
  -- what has been read so far changes from digit to digit, and stays within the limit
  induction cs generalizing value with
  | nil =>
    rw [readDigits, List.foldl_nil, Except.ok.injEq]
    constructor
    · rintro rfl
      exact ⟨fun c hc => absurd hc List.not_mem_nil, rfl, h⟩
    · exact fun hn => hn.2.1
  | cons c cs ih =>
    rw [readDigits, List.forall_mem_cons, List.foldl_cons]
    cases hc : c.isDigit with
    | false => simp
    | true =>
      simp only [Bool.not_true, Bool.false_eq_true, if_false, true_and]
      by_cases hlarge : limit < appendDigit value c
      · have hgrows := le_foldl_appendDigit cs (appendDigit value c)
        rw [if_pos hlarge]
        refine iff_of_false (fun herror => by cases herror) ?_
        rintro ⟨-, rfl, hle⟩
        omega
      · rw [if_neg hlarge]
        exact ih (Nat.le_of_not_lt hlarge)

/-- **Reading digit by digit comes to the same number** as reading all digits and comparing the
number with the limit, where it comes to one. -/
theorem toOption_readUnsigned (limit : Nat) (cs : List Char) :
    (readUnsigned limit cs).toOption = unsigned? limit cs := by
  unfold readUnsigned
  split
  · rfl
  · rfl
  · next hnil hplus =>
    have hne : dropPlus cs ≠ [] := by
      unfold dropPlus
      split
      · next rest => exact fun hrest => hplus (by rw [hrest])
      · exact hnil
    refine Option.ext fun n => ?_
    rw [toOption_eq_some_iff, readDigits_eq_ok_iff (Nat.zero_le limit), unsigned?,
      Option.filter_eq_some_iff, digitsValue?_eq_some_iff, decide_eq_true_eq]
    exact ⟨fun h => ⟨⟨hne, h.1, h.2.1⟩, h.2.2⟩, fun h => ⟨h.1.2.1, h.1.2.2, h.2⟩⟩

/-- What spells a number is made of digits, and perhaps a plus. -/
theorem Spells.digit_or_plus (h : Spells cs n) : ∀ c ∈ cs, c.isDigit = true ∨ c = '+' := by
  obtain ⟨ds, rfl | rfl, -, hdigits, -⟩ := h
  · exact fun c hc => .inl (hdigits c hc)
  · intro c hc
    rcases List.mem_cons.1 hc with rfl | hc
    · exact .inr rfl
    · exact .inl (hdigits c hc)

end

/-! ### Plain numerals -/

/-- **Digits without a superfluous zero:** there is none in front, except for the digit of
zero. -/
structure IsNumeral (cs : List Char) : Prop where
  nonempty : cs ≠ []
  digits : ∀ c ∈ cs, c.isDigit = true
  lead : cs.head? = some '0' → cs = ['0']

/-- **Plain numerals are the digits that are printed.** -/
theorem toDigits_digitsValue_iff {cs : List Char} (hne : cs ≠ [])
    (hdigits : ∀ c ∈ cs, c.isDigit = true) :
    Nat.toDigits 10 (digitsValue cs) = cs ↔ IsNumeral cs := by
  constructor
  · intro h
    refine ⟨hne, hdigits, fun hzero => ?_⟩
    rcases Nat.eq_zero_or_pos (digitsValue cs) with hn | hn
    · rw [hn] at h
      exact h.symm
    · rw [← h] at hzero
      exact absurd hzero (head?_toDigits hn)
  · rintro ⟨-, -, hlead⟩
    cases cs with
    | nil => exact absurd rfl hne
    | cons c cs =>
      obtain ⟨hc, hcs⟩ := List.forall_mem_cons.1 hdigits
      by_cases hzero : c = '0'
      · obtain ⟨rfl, rfl⟩ := List.cons.inj (hlead (by rw [hzero]; rfl))
        rfl
      · have hpos : 0 < c.toNat - 48 := by
          have hlow := (isDigit_bounds hc).1
          have hne : c.toNat ≠ 48 := fun h => hzero (Char.toNat_inj.1 h)
          omega
        have hvalue : digitsValue (c :: cs) = cs.foldl appendDigit (c.toNat - 48) := by
          rw [digitsValue, List.foldl_cons, appendDigit, Nat.mul_zero, Nat.zero_add]
        rw [hvalue, toDigits_foldl hcs hpos, toDigits_sub_of_isDigit hc]
        rfl

/-- The digits of a number are a numeral. -/
theorem isNumeral_toDigits (n : Nat) : IsNumeral (Nat.toDigits 10 n) := by
  refine (toDigits_digitsValue_iff Nat.toDigits_ne_nil (isDigit_toDigits n)).1 ?_
  rw [digitsValue_toDigits]

/-- Digits are those that are printed for their number, with zeros in front. -/
theorem exists_zeros_of_digits {ds : List Char} (hne : ds ≠ [])
    (hdigits : ∀ c ∈ ds, c.isDigit = true) :
    ∃ zeros, (∀ z ∈ zeros, z = '0') ∧ ds = zeros ++ Nat.toDigits 10 (digitsValue ds) := by
  induction ds with
  | nil => exact absurd rfl hne
  | cons c ds ih =>
    -- a zero before other digits is one of those in front; anything else begins a plain numeral
    by_cases hzero : c = '0' ∧ ds ≠ []
    · obtain ⟨rfl, hds⟩ := hzero
      obtain ⟨zeros, hzeros, hprinted⟩ := ih hds (List.forall_mem_cons.1 hdigits).2
      have hvalue : digitsValue ('0' :: ds) = digitsValue ds := rfl
      refine ⟨'0' :: zeros, List.forall_mem_cons.2 ⟨rfl, hzeros⟩, ?_⟩
      rw [hvalue, List.cons_append, ← hprinted]
    · have hnumeral : IsNumeral (c :: ds) := by
        refine ⟨hne, hdigits, fun hhead => ?_⟩
        obtain rfl : c = '0' := Option.some.inj hhead
        rw [Classical.not_not.1 fun hds => hzero ⟨rfl, hds⟩]
      refine ⟨[], fun z hz => absurd hz List.not_mem_nil, ?_⟩
      exact ((toDigits_digitsValue_iff hne hdigits).2 hnumeral).symm

namespace Spells

variable {cs : List Char} {n : Nat}

/-- **What spells a number is what is printed for it,** with any zeros in front, perhaps after one
plus. -/
theorem exists_zeros (h : Spells cs n) :
    ∃ zeros, (∀ z ∈ zeros, z = '0') ∧
      (cs = zeros ++ Nat.toDigits 10 n ∨ cs = '+' :: (zeros ++ Nat.toDigits 10 n)) := by
  obtain ⟨ds, hcs, hne, hdigits, rfl⟩ := h
  rw [ofDigitChars_eq_digitsValue]
  obtain ⟨zeros, hzeros, hds⟩ := exists_zeros_of_digits hne hdigits
  refine ⟨zeros, hzeros, ?_⟩
  rwa [← hds]

/-- **What spells a number is printed for it if and only if it is a plain numeral.** -/
theorem toDigits_eq_iff (h : Spells cs n) : Nat.toDigits 10 n = cs ↔ IsNumeral cs := by
  obtain ⟨ds, rfl | rfl, hne, hdigits, rfl⟩ := h
  · rw [ofDigitChars_eq_digitsValue]
    exact toDigits_digitsValue_iff hne hdigits
  · have hsign : ¬IsNumeral ('+' :: ds) := fun hnumeral =>
      absurd (hnumeral.digits '+' List.mem_cons_self) (by decide)
    exact iff_of_false (fun hprinted => hsign (hprinted ▸ isNumeral_toDigits _)) hsign

/-- What spells a number is a plain numeral unless there is a plus or a superfluous zero. -/
theorem isNumeral_iff (h : Spells cs n) :
    IsNumeral cs ↔ '+' ∉ cs ∧ ∀ c rest, cs ≠ '0' :: c :: rest := by
  constructor
  · rintro ⟨-, hdigits, hlead⟩
    refine ⟨fun hplus => absurd (hdigits '+' hplus) (by decide), ?_⟩
    rintro c rest rfl
    cases hlead rfl
  · rintro ⟨hplus, hzero⟩
    obtain ⟨ds, rfl | rfl, hne, hdigits, -⟩ := h
    · refine ⟨hne, hdigits, fun hhead => ?_⟩
      obtain ⟨rest, rfl⟩ := List.head?_eq_some_iff.1 hhead
      cases rest with
      | nil => rfl
      | cons c rest => exact absurd rfl (hzero c rest)
    · exact absurd List.mem_cons_self hplus

end Spells

/-! ### Whole numbers -/

/-- **A whole number as it is printed:** a plain numeral, or one after a minus, except for
zero. -/
inductive IsWholeNumeral : List Char → Prop where
  | unsigned {cs : List Char} (h : IsNumeral cs) : IsWholeNumeral cs
  | negative {cs : List Char} (h : IsNumeral cs) (hne : cs ≠ ['0']) : IsWholeNumeral ('-' :: cs)

section
variable {cs : List Char}

/-- A whole numeral below zero is a minus before a numeral that is not zero. -/
theorem isWholeNumeral_minus_iff : IsWholeNumeral ('-' :: cs) ↔ IsNumeral cs ∧ cs ≠ ['0'] := by
  constructor
  · intro h
    cases h with
    | unsigned h =>
      have hminus := h.digits '-' List.mem_cons_self
      exact absurd hminus (by decide)
    | negative h hne => exact ⟨h, hne⟩
  · exact fun ⟨h, hne⟩ => .negative h hne

/-- Any other whole numeral is a numeral. -/
theorem isWholeNumeral_iff_of_ne (hminus : ∀ ds, cs ≠ '-' :: ds) :
    IsWholeNumeral cs ↔ IsNumeral cs := by
  constructor
  · intro h
    cases h with
    | unsigned h => exact h
    | negative _ _ => exact absurd rfl (hminus _)
  · exact .unsigned

/-- An integer that is made of a natural number, where there is one. -/
theorem exists_of_map_cast {o : Option Nat} {f : Int → Int} {k : Int}
    (h : Option.map f (do let n ← o; pure (n : Int)) = some k) : ∃ n : Nat, o = some n ∧ k = f n := by
  cases o with
  | none => cases h
  | some n => exact ⟨n, rfl, (Option.some.inj h).symm⟩

/-- The ways in which a text denotes a signed number: with a minus and without. -/
theorem signed?_cases {n : Int} (h : signed? cs = some n) :
    (∃ ds m, cs = '-' :: ds ∧ digitsValue? ds = some m ∧ n = -(m : Int)) ∨
      (∀ ds, cs ≠ '-' :: ds) ∧ ∃ m, digitsValue? (dropPlus cs) = some m ∧ n = (m : Int) := by
  unfold signed? at h
  split at h
  · next ds =>
    obtain ⟨m, hm, rfl⟩ := exists_of_map_cast h
    exact .inl ⟨ds, m, rfl, (Option.filter_eq_some_iff.1 hm).1, rfl⟩
  · next hminus =>
    obtain ⟨m, hm, rfl⟩ := exists_of_map_cast h
    exact .inr ⟨hminus, m, (Option.filter_eq_some_iff.1 hm).1, rfl⟩

/-- A whole number that is not below zero is shown by its digits. -/
theorem toList_toString_nat (n : Nat) : (toString (n : Int)).toList = Nat.toDigits 10 n := by
  have hnat : toString (n : Int) = toString n := rfl
  rw [hnat, toList_toString]

/-- One below zero is shown with a minus. -/
theorem toList_toString_neg {n : Nat} (h : 0 < n) :
    (toString (-(n : Int))).toList = '-' :: Nat.toDigits 10 n := by
  obtain ⟨k, rfl⟩ := Nat.exists_eq_succ_of_ne_zero (Nat.ne_of_gt h)
  have hneg : toString (-((k + 1 : Nat) : Int)) = "-" ++ toString (k + 1) := rfl
  rw [hneg, String.toList_append, toList_toString]
  rfl

/-- **A text that denotes a number is what is printed for it if and only if it is a plain
numeral.** -/
theorem toString_signed?_iff {t : String} {n : Int} (h : signed? t.toList = some n) :
    toString n = t ↔ IsWholeNumeral t.toList := by
  rw [← String.toList_inj]
  rcases signed?_cases h with ⟨ds, m, hcs, hm, rfl⟩ | ⟨hminus, m, hm, rfl⟩
  · obtain ⟨hne, hdigits, rfl⟩ := digitsValue?_eq_some_iff.1 hm
    rw [hcs, isWholeNumeral_minus_iff, ← toDigits_digitsValue_iff hne hdigits]
    rcases Nat.eq_zero_or_pos (digitsValue ds) with hzero | hpos
    · -- zero is printed without a minus
      rw [hzero]
      constructor
      · intro hprinted
        have hhead := (List.cons.inj (hprinted : ['0'] = '-' :: ds)).1
        exact absurd hhead (by decide)
      · rintro ⟨hds, hnot⟩
        exact absurd hds.symm hnot
    · rw [toList_toString_neg hpos]
      constructor
      · intro hprinted
        obtain ⟨-, hds⟩ := List.cons.inj hprinted
        refine ⟨hds, fun hzero => ?_⟩
        rw [hzero] at hpos
        exact absurd hpos (by decide)
      · rintro ⟨hds, -⟩
        rw [hds]
  · rw [isWholeNumeral_iff_of_ne hminus, toList_toString_nat]
    exact (spells_iff.2 hm).toDigits_eq_iff

end

end Text
end Remedy
