/-
# Receipts and the tags they name

A receipt is the decimal text of a tag.  The tag is read back from it as long as
it has 64 bits, and so no two deliveries of a broker have one receipt.

Other texts name a tag as well, with zeros in front or after a plus, and nothing
else does.  Of all the texts for one tag the receipt that is made of it is the
one without these (`tags_read`).
-/

import Remedy.Messaging.Queues
import Remedy.Proofs.Text.Numeral

namespace Remedy
namespace Messaging
namespace Receipt

/-- **A receipt names the tag that it was made of.** -/
theorem tag?_ofTag {t : Nat} (h : t < 2 ^ 64) : (ofTag t).tag? = some t :=
  Text.unsigned?_toString (by unfold Text.maxU64; omega)

/-- Several texts name one tag. -/
example : ["7", "07", "+7"].map (fun text => tag? ⟨text⟩) = [some 7, some 7, some 7] := by decide

/-- A receipt shows its tag in decimal. -/
theorem toList_text_ofTag (t : Nat) : (ofTag t).text.toList = Nat.toDigits 10 t :=
  Text.toList_toString t

/-- A receipt is that of a tag if it shows its digits. -/
theorem ofTag_eq_iff {t : Nat} {r : Receipt} : ofTag t = r ↔ Nat.toDigits 10 t = r.text.toList := by
  obtain ⟨text⟩ := r
  rw [← toList_text_ofTag, String.toList_inj]
  exact ⟨congrArg Receipt.text, congrArg Receipt.mk⟩

/-- Different tags have different receipts. -/
theorem ofTag_toNat_inj {t u : UInt64} : ofTag t.toNat = ofTag u.toNat ↔ t = u := by
  constructor
  · intro hreceipts
    have htags := congrArg tag? hreceipts
    rw [tag?_ofTag t.toNat_lt, tag?_ofTag u.toNat_lt] at htags
    exact UInt64.toNat_inj.1 (Option.some.inj htags)
  · rintro rfl
    rfl

/-- **A text names the number that it spells,** if that has 64 bits. -/
theorem tag?_eq_some_iff {r : Receipt} {n : Nat} :
    r.tag? = some n ↔ Text.Spells r.text.toList n ∧ n ≤ 18446744073709551615 :=
  Text.unsigned?_eq_some_iff

/-- A receipt without a tag is no numeral of 64 bits. -/
theorem tag?_eq_none_iff {r : Receipt} :
    r.tag? = none ↔ ∀ n, Text.Spells r.text.toList n → 18446744073709551615 < n := by
  rw [Option.eq_none_iff_forall_ne_some]
  refine forall_congr' fun n => ?_
  rw [Ne, tag?_eq_some_iff, not_and, Nat.not_le]

/-- **Receipts and the tags they name.**  A receipt names the tag that it was made of, and different
tags have different receipts.  A text is read digit by digit, as long as the number has 64 bits.  So
it names a tag if and only if it spells a number that is not too large: digits, with any zeros in
front, perhaps after one plus.  The receipt that is made of this tag is a plain numeral, and what
was read is that numeral with zeros in front, perhaps after a plus.  It is that receipt itself if
and only if there is no plus in it and no superfluous zero in front. -/
theorem tags_read :
    (∀ t : UInt64, (ofTag t.toNat).tag? = some t.toNat) ∧
    (∀ t u : UInt64, ofTag t.toNat = ofTag u.toNat ↔ t = u) ∧
    ∀ r : Receipt,
      r.tag? = (Text.readUnsigned Text.maxU64 r.text.toList).toOption ∧
      (∀ n, r.tag? = some n ↔ Text.Spells r.text.toList n ∧ n ≤ 18446744073709551615) ∧
      (r.tag? = none ↔ ∀ n, Text.Spells r.text.toList n → 18446744073709551615 < n) ∧
      ∀ n, r.tag? = some n →
        Text.IsNumeral (ofTag n).text.toList ∧
        (∃ zeros, (∀ z ∈ zeros, z = '0') ∧
          (r.text.toList = zeros ++ (ofTag n).text.toList ∨
            r.text.toList = '+' :: (zeros ++ (ofTag n).text.toList))) ∧
        (ofTag n = r ↔ '+' ∉ r.text.toList ∧ ∀ c rest, r.text.toList ≠ '0' :: c :: rest) := by
  refine ⟨fun t => tag?_ofTag t.toNat_lt, fun t u => ofTag_toNat_inj, fun r => ?_⟩
  refine ⟨(Text.toOption_readUnsigned _ _).symm, fun n => tag?_eq_some_iff, tag?_eq_none_iff,
    fun n hn => ?_⟩
  have hspells := (tag?_eq_some_iff.1 hn).1
  rw [toList_text_ofTag]
  refine ⟨Text.isNumeral_toDigits n, hspells.exists_zeros, ?_⟩
  rw [ofTag_eq_iff, hspells.toDigits_eq_iff]
  exact hspells.isNumeral_iff

/-- The greatest tag after a plus and a zero: it is named, by a text that is not its receipt. -/
theorem tags_read_of_padded :
    let r : Receipt := ⟨"+018446744073709551615"⟩
    r.tag? = some 18446744073709551615 ∧ ofTag 18446744073709551615 ≠ r := by
  intro r
  obtain ⟨-, -, hread⟩ := tags_read
  obtain ⟨-, -, -, hprinted⟩ := hread r
  have htag : r.tag? = some 18446744073709551615 := by decide
  obtain ⟨-, -, hself⟩ := hprinted _ htag
  exact ⟨htag, fun h => (hself.1 h).1 (by decide)⟩

end Receipt
end Messaging
end Remedy
