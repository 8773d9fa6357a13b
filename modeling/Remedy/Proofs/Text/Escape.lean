/-
# Escaped texts are told apart

An escape is a backslash and a letter, a code point in braces, or the character itself
(`escapeBare_cases`).  So it holds nothing that is hidden, and whoever reads it knows where it ends
and what it stands for (`unescape?_escapeBare`).  A text is known from its escapes
(`flatMap_escapeBare_inj`).
-/

import Mathlib.Data.List.TakeWhile
import Remedy.Json.Reader
import Remedy.Text.Escape

namespace Remedy
namespace Text

/-! ### Code points in hexadecimal -/

/-- The number that hexadecimal digits denote. -/
def hexNumber (ds : List Char) : Nat :=
  ds.foldl (fun n d => 16 * n + (Json.hexValue? d).getD 0) 0

/-- A digit of a base up to sixteen is read back. -/
theorem hexValue?_digitChar : ∀ d < 16, Json.hexValue? (Nat.digitChar d) = some d := by decide

/-- **The digits of a number denote it,** and they are digits. -/
theorem hexDigits_spec (n : Nat) :
    hexNumber (hexDigits n) = n ∧ ∀ d ∈ hexDigits n, ∃ k < 16, d = Nat.digitChar k := by
  induction n using Nat.strongRecOn with
  | ind n ih =>
    rw [hexDigits, Nat.toDigits_eq_if (by decide)]
    split
    · next hn =>
      refine ⟨?_, List.forall_mem_singleton.2 ⟨n, hn, rfl⟩⟩
      rw [hexNumber, List.foldl_cons, List.foldl_nil, hexValue?_digitChar n hn]
      exact Nat.zero_add n
    · next hn =>
      obtain ⟨hvalue, hmem⟩ := ih (n / 16) (by omega)
      rw [hexDigits] at hvalue hmem
      have hlast : n % 16 < 16 := Nat.mod_lt n (by decide)
      refine ⟨?_, List.forall_mem_append.2 ⟨hmem, List.forall_mem_singleton.2 ⟨_, hlast, rfl⟩⟩⟩
      rw [hexNumber] at hvalue
      rw [hexNumber, List.foldl_append, hvalue, List.foldl_cons, List.foldl_nil,
        hexValue?_digitChar _ hlast]
      exact Nat.div_add_mod n 16

/-! ### Single escapes -/

/-- The characters that have an escape with a letter, and these letters. -/
def letters : List (Char × Char) :=
  [('\x00', '0'), ('\t', 't'), ('\r', 'r'), ('\n', 'n'), ('\\', '\\'), ('"', '"'), ('\'', '\'')]

/-- **The three kinds of escapes.** -/
theorem escapeBare_cases (c : Char) :
    (∃ l, (c, l) ∈ letters ∧ escapeBare c = backslash l) ∨ escapeBare c = codePointEscape c ∨
      c ≠ '\\' ∧ Character.isHidden c = false ∧ escapeBare c = [c] := by
  unfold escapeBare
  split
  · next hquote =>
    refine .inl ⟨c, ?_, rfl⟩
    rw [Bool.or_eq_true, decide_eq_true_eq, decide_eq_true_eq] at hquote
    rcases hquote with rfl | rfl <;> decide
  · unfold escapeChar
    split
    · exact .inl ⟨'0', by decide, rfl⟩
    · exact .inl ⟨'t', by decide, rfl⟩
    · exact .inl ⟨'r', by decide, rfl⟩
    · exact .inl ⟨'n', by decide, rfl⟩
    · exact .inl ⟨'\\', by decide, rfl⟩
    · next hslash =>
      split
      · exact .inr (.inl rfl)
      · next hshown => exact .inr (.inr ⟨hslash, Bool.eq_false_iff.2 hshown, rfl⟩)

/-- A character that stands in a line of text and does not end it. -/
def StandsInLine (c : Char) : Prop :=
  Character.isControl c = false ∧ Character.isLineSeparator c = false

instance : DecidablePred StandsInLine := fun _ => inferInstanceAs (Decidable (_ ∧ _))

/-- **An escape holds no control and no separator of lines.** -/
theorem standsInLine_of_mem_escapeBare {c x : Char} (hx : x ∈ escapeBare c) : StandsInLine x := by
  have hslash : StandsInLine '\\' := by decide
  rcases escapeBare_cases c with ⟨l, hl, h⟩ | h | ⟨-, hshown, h⟩
  · have hletters : ∀ p ∈ letters, StandsInLine p.2 := by decide
    simp only [h, backslash, List.mem_cons, List.not_mem_nil, or_false] at hx
    rcases hx with rfl | rfl
    · exact hslash
    · exact hletters _ hl
  · have hdigits : ∀ k < 16, StandsInLine (Nat.digitChar k) := by decide
    simp only [h, codePointEscape, List.mem_append, List.mem_cons, List.not_mem_nil, or_false] at hx
    rcases hx with ((rfl | rfl | rfl) | hx) | rfl
    · exact hslash
    · decide
    · decide
    · obtain ⟨k, hk, rfl⟩ := (hexDigits_spec _).2 x hx
      exact hdigits k hk
    · decide
  · rw [h, List.mem_singleton] at hx
    subst hx
    simp only [Character.isHidden, Bool.or_eq_false_iff] at hshown
    exact hshown.1

/-! ### Reading escapes -/

/-- The character at the front of an escaped text, and what comes after it. -/
def unescape? : List Char → Option (Char × List Char)
  | [] => none
  | '\\' :: 'u' :: '\x7b' :: rest =>
    let digits := rest.takeWhile (· ≠ '\x7d')
    some (Char.ofNat (hexNumber digits), rest.drop (digits.length + 1))
  | '\\' :: l :: rest => (letters.find? (·.2 = l)).map fun p => (p.1, rest)
  | c :: rest => some (c, rest)

/-- **A character is read from its escape,** whatever comes after it. -/
theorem unescape?_escapeBare (c : Char) (rest : List Char) :
    unescape? (escapeBare c ++ rest) = some (c, rest) := by
  rcases escapeBare_cases c with ⟨l, hl, h⟩ | h | ⟨hslash, -, h⟩
  · have hletters : ∀ p ∈ letters, p.2 ≠ 'u' ∧ letters.find? (·.2 = p.2) = some p := by decide
    obtain ⟨hu, hfind⟩ := hletters _ hl
    rw [h, backslash, List.cons_append, List.singleton_append, unescape?, hfind]
    · rfl
    · exact fun _ heq => absurd heq hu
  · obtain ⟨hvalue, hmem⟩ := hexDigits_spec c.toNat
    have hend : ∀ d ∈ hexDigits c.toNat, (decide (d ≠ '\x7d')) = true := by
      have hdigits : ∀ k < 16, (decide (Nat.digitChar k ≠ '\x7d')) = true := by decide
      intro d hd
      obtain ⟨k, hk, rfl⟩ := hmem d hd
      exact hdigits k hk
    have hdigits :
        (hexDigits c.toNat ++ '\x7d' :: rest).takeWhile (· ≠ '\x7d') = hexDigits c.toNat := by
      rw [List.takeWhile_append_of_pos hend, List.takeWhile_cons_of_neg (by simp), List.append_nil]
    have hrest :
        (hexDigits c.toNat ++ '\x7d' :: rest).drop ((hexDigits c.toNat).length + 1) = rest := by
      rw [← List.drop_drop, List.drop_left]
      rfl
    have hescape : escapeBare c ++ rest =
        '\\' :: 'u' :: '\x7b' :: (hexDigits c.toNat ++ '\x7d' :: rest) := by
      rw [h, codePointEscape]
      simp
    rw [hescape, unescape?, hdigits, hvalue, Char.ofNat_toNat, hrest]
  · rw [h, List.singleton_append, unescape?]
    · exact fun _ heq => absurd heq hslash
    · exact fun _ _ heq => absurd heq hslash

/-- Every character is shown as something. -/
theorem escapeBare_ne_nil (c : Char) : escapeBare c ≠ [] := by
  intro hnil
  have h := unescape?_escapeBare c []
  rw [hnil] at h
  cases h

/-- **A text is known from its escapes.** -/
theorem flatMap_escapeBare_inj {cs ds : List Char} :
    cs.flatMap escapeBare = ds.flatMap escapeBare ↔ cs = ds := by
  constructor
  · intro h
    induction cs generalizing ds with
    | nil =>
      cases ds with
      | nil => rfl
      | cons d ds =>
        rw [List.flatMap_nil, List.flatMap_cons] at h
        exact absurd (List.append_eq_nil_iff.1 h.symm).1 (escapeBare_ne_nil d)
    | cons c cs ih =>
      cases ds with
      | nil =>
        rw [List.flatMap_nil, List.flatMap_cons] at h
        exact absurd (List.append_eq_nil_iff.1 h).1 (escapeBare_ne_nil c)
      | cons d ds =>
        rw [List.flatMap_cons, List.flatMap_cons] at h
        have hread := congrArg unescape? h
        rw [unescape?_escapeBare, unescape?_escapeBare, Option.some.injEq, Prod.mk.injEq] at hread
        rw [hread.1, ih hread.2]
  · rintro rfl
    rfl

end Text
end Remedy
