/-
# Settings that are numbers

Digits of any length are a number, and a configuration may have it for one of two settings.  The
deliveries under way are read from the text, and they are the number, or the configuration is
refused.  The time limit is in the section that is parsed: what is no whole number of 64 bits with
a sign becomes a binary floating point number, which is rounded, and cut at 64 bits.  So a time
limit from 2 ^ 63 on is a multiple of 2048, or the greatest number of 64 bits, whatever its digits
say (`numbers_read`, `time_limit_rounded`).
-/

import Remedy.Execution.Launcher
import Remedy.Proofs.Config.Building
import Remedy.Proofs.Config.Locality
import Remedy.Proofs.Number.Rounding

namespace Remedy

/-! ### Digits in sections -/

namespace Settings

variable {s : Section} {t : String} {n : Nat}

/-- Digits have no case. -/
theorem lowercase_of_digits (h : Text.digitsValue? t.toList = some n) :
    Character.lowercase t = t := by
  have hdigits := (Text.digitsValue?_eq_some_iff.1 h).2.1
  have hascii : ∀ c ∈ t.toList, c.toNat < 0x80 := by
    intro c hc
    have hhigh := (Text.isDigit_bounds (hdigits c hc)).2
    omega
  rw [Character.lowercase, Character.lowerFrom_of_ascii hascii, Text.map_toLower_of_digits hdigits,
    String.ofList_toList]

/-- Digits are no truth value. -/
theorem bool?_of_digits (h : Text.digitsValue? t.toList = some n) : Section.bool? t = none := by
  unfold Section.bool?
  rw [lowercase_of_digits h]
  split
  · exact absurd rfl (Text.ne_of_digits h (by decide))
  · exact absurd rfl (Text.ne_of_digits h (by decide))
  · rfl

/-- **What digits are in a parsed section:** their number if it has 64 bits with a sign, and the
nearest value otherwise. -/
theorem parse_of_digits (h : Text.digitsValue? t.toList = some n) (setting : String) :
    s.parse setting t = if n < 2 ^ 63 then .int n else .float (.ofDecimal false n 0) := by
  unfold Section.parse
  rw [bool?_of_digits h, Text.signed?_of_digits h, Binary64.read?_of_digits h]
  by_cases hn : n < 2 ^ 63
  · simp only [if_pos hn]
  · simp only [if_neg hn]

/-- **Digits where a number is needed:** theirs, if it is not too large. -/
theorem asUnsigned_of_digits (h : Text.digitsValue? t.toList = some n) {m : Nat}
    (hm : (Value.text t).asUnsigned = .ok m) : m = n := by
  have hwords : ∀ words : List String, (∀ w ∈ words, w.toList.all Char.isDigit = false) →
      ¬words.contains t = true := by
    intro words hwords hmem
    exact Text.ne_of_digits h (hwords t (List.contains_iff_mem.1 hmem)) rfl
  unfold Value.asUnsigned at hm
  simp only [lowercase_of_digits h] at hm
  rw [if_neg (hwords _ (by decide)), if_neg (hwords _ (by decide)),
    Text.unsigned?_of_digits h] at hm
  by_cases hn : n ≤ Text.maxU64
  · rw [if_pos hn] at hm
    exact (Except.ok.inj hm).symm
  · rw [if_neg hn] at hm
    cases hm

/-- A number of 16 bits that is read off digits is what they denote. -/
theorem asUInt16_of_digits (h : Text.digitsValue? t.toList = some n) {x : UInt16}
    (hx : (Value.text t).asUInt16 = .ok x) : x.toNat = n := by
  obtain ⟨m, hm, hx⟩ := bind_eq_ok_iff.1 hx
  obtain rfl := asUnsigned_of_digits h hm
  split at hx
  · next hle =>
    rw [← Except.ok.inj hx]
    exact UInt16.toNat_ofNat_of_lt (Nat.lt_succ_of_le hle)
  · cases hx

/-- **Digits where a number of 64 bits is needed,** in a parsed section. -/
theorem asUInt64_parse_of_digits (h : Text.digitsValue? t.toList = some n) {setting : String}
    {x : UInt64} (hx : (s.parse setting t).asUInt64 = .ok x) :
    n < 2 ^ 63 ∧ x.toNat = n ∨
      2 ^ 63 ≤ n ∧ ∀ q, Binary64.NearestEven n 2048 q → x.toNat = min Text.maxU64 (q * 2048) := by
  obtain ⟨m, hm, rfl⟩ := map_eq_ok_iff.1 hx
  rw [parse_of_digits h] at hm
  by_cases hn : n < 2 ^ 63
  · rw [if_pos hn, Value.asUnsigned, if_pos (Int.natCast_nonneg n), Int.toNat_natCast] at hm
    rw [← Except.ok.inj hm]
    exact .inl ⟨hn, UInt64.toNat_ofNat_of_lt (Nat.lt_trans hn (by decide))⟩
  · rw [if_neg hn, Value.asUnsigned] at hm
    refine .inr ⟨Nat.le_of_not_lt hn, fun q hq => ?_⟩
    rw [← Except.ok.inj hm, Binary64.toNatWithin_ofDecimal hq (Nat.le_of_not_lt hn)]
    exact UInt64.toNat_ofNat_of_lt (Nat.lt_of_le_of_lt (Nat.min_le_left _ _) (by decide))

end Settings

namespace Config

open Settings (Plain Variables)
open Binary64 (NearestEven)

/-- **How numbers are taken.**  Where the variable for the deliveries under way holds digits, and a
configuration has been loaded, it has the number for them that the digits are.  Where the variable
for the time limit does, it has that number if it is below 2 ^ 63, and otherwise the nearest
multiple of 2048, of two the one with the even factor, but no more than the greatest number of 64
bits.  That is the number if and only if it is below 2 ^ 63, or such a multiple of 64 bits, or the
greatest number of 64 bits.  The executor's time limit is as many seconds. -/
theorem numbers_read {vars : Variables} (h : Plain vars) {isDirectory : Host.Path → Bool}
    {c : Config} (hc : (load isDirectory vars).1 = .ok c) {name t : String}
    (hmem : (name, t) ∈ vars) (ht : t ≠ "") (hdigits : ∀ x ∈ t.toList, x.isDigit = true) {n : Nat}
    (hn : Nat.ofDigitChars 10 t.toList 0 = n) :
    (Character.lowercase name = Setting.prefetch.variableName → c.endpoint.prefetch.toNat = n) ∧
    (Character.lowercase name = Setting.timeoutSeconds.variableName →
      (n < 2 ^ 63 → c.runbook.timeoutSeconds.toNat = n) ∧
      (2 ^ 63 ≤ n → ∃ q, NearestEven n 2048 q ∧
        c.runbook.timeoutSeconds.toNat = min (2 ^ 64 - 1) (q * 2048)) ∧
      (c.runbook.timeoutSeconds.toNat = n ↔
        n < 2 ^ 63 ∨ 2048 ∣ n ∧ n < 2 ^ 64 ∨ n = 2 ^ 64 - 1) ∧
      (Execution.Launcher.ofRunbook c.runbook).limit = c.runbook.timeoutSeconds.toNat * 1000) := by
  have hvalue : Text.digitsValue? t.toList = some n := by
    refine Text.digitsValue?_eq_some_iff.2 ⟨fun hnil => ht (String.toList_inj.1 hnil), hdigits, ?_⟩
    rw [← hn, Nat.ofDigitChars_eq_foldl]
    rfl
  constructor
  · intro hname
    have hread := ofText_of_gives h hc (gives_of_ne_port (by decide) hmem hname ht)
    exact Settings.asUInt16_of_digits hvalue (mapError_eq_ok_iff.1 hread)
  · intro hname
    have hread := ofText_of_gives h hc (gives_of_ne_port (by decide) hmem hname ht)
    have hseconds : (runbookSection.parse "timeout_seconds" t).asUInt64 =
        .ok c.runbook.timeoutSeconds := mapError_eq_ok_iff.1 hread
    have hmax : Text.maxU64 = 2 ^ 64 - 1 := rfl
    rcases Settings.asUInt64_parse_of_digits hvalue hseconds with ⟨hlt, hsame⟩ | ⟨hle, hnearest⟩
    · refine ⟨fun _ => hsame, fun hle => absurd hlt (Nat.not_lt_of_le hle), ?_, rfl⟩
      exact iff_of_true hsame (.inl hlt)
    · have hq := Binary64.nearestEven_roundDivEven (n := n) (d := 2048) (by decide)
      have hrounded := hnearest _ hq
      refine ⟨fun hlt => absurd hlt (Nat.not_lt_of_le hle), fun _ => ⟨_, hq, hrounded⟩, ?_, rfl⟩
      rw [hrounded, Binary64.min_eq_self_iff hq, hmax, or_iff_right (Nat.not_lt_of_le hle)]
      exact or_congr_left (and_congr_right fun _ => Nat.le_sub_one_iff_lt (by decide))

/-- **A time limit that is rounded:** the last digit of an odd number of 64 bits is lost. -/
theorem time_limit_rounded :
    let vars := [("RUNBOOK_TIMEOUT_SECONDS", "9223372036854775809")]
    Plain vars ∧ Nat.ofDigitChars 10 "9223372036854775809".toList 0 = 9223372036854775809 ∧
      ∃ c, (load (fun _ => true) vars).1 = .ok c ∧
        c.runbook.timeoutSeconds.toNat = 9223372036854775808 := by
  intro vars
  have hread : ofVariables (dropServiceLink vars).1 =
      .ok ⟨.standard, { Runbook.standard with timeoutSeconds := 9223372036854775808 }⟩ := by
    decide +kernel
  exact ⟨⟨by decide, by decide⟩, by decide, _,
    load_eq_ok_iff.2 ⟨hread, validate_of_standard rfl rfl (by decide) rfl rfl⟩, rfl⟩

/-- A number with zeros in front, and one in the middle between two multiples of 2048. -/
theorem numbers_read_of_tie :
    let vars := [("RABBITMQ_PREFETCH_COUNT", "007"),
      ("RUNBOOK_TIMEOUT_SECONDS", "9223372036854776832")]
    ∃ c, (load (fun _ => true) vars).1 = .ok c ∧ c.endpoint.prefetch.toNat = 7 ∧
      c.runbook.timeoutSeconds.toNat ≠ 9223372036854776832 := by
  intro vars
  have hplain : Plain vars := ⟨by decide, by decide⟩
  have hread : ofVariables (dropServiceLink vars).1 =
      .ok ⟨{ Endpoint.standard with prefetch := 7 },
        { Runbook.standard with timeoutSeconds := 9223372036854775808 }⟩ := by
    decide +kernel
  have hload : (load (fun _ => true) vars).1 = .ok _ :=
    load_eq_ok_iff.2 ⟨hread, validate_of_standard rfl rfl (by decide) rfl rfl⟩
  have hprefetch : ("RABBITMQ_PREFETCH_COUNT", "007") ∈ vars := by decide
  have htimeout : ("RUNBOOK_TIMEOUT_SECONDS", "9223372036854776832") ∈ vars := by decide
  have hseven := (numbers_read hplain hload hprefetch (by decide) (List.all_eq_true.1 (by decide))
    (by decide : Nat.ofDigitChars 10 "007".toList 0 = 7)).1 (by decide)
  have hseconds := (numbers_read hplain hload htimeout (by decide) (List.all_eq_true.1 (by decide))
    (by decide : Nat.ofDigitChars 10 "9223372036854776832".toList 0 = 9223372036854776832)).2
    (by decide)
  refine ⟨_, hload, hseven, fun hsame => ?_⟩
  have hexact := hseconds.2.2.1.1 hsame
  omega

end Config
end Remedy
