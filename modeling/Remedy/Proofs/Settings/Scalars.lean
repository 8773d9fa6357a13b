/-
# Texts in a parsed section

In a section that is parsed, a text that spells a truth value or a number becomes one, and is
written anew where a text is needed (`Respelled`, `asText_parse`).  It comes out as it was only
if it was spelled the way it is written: a truth value in small letters, a whole number as it is
printed, and any other number as the shortest decimal of its value (`Verbatim`,
`respelled_self_iff`).

All these spellings consist of letters and digits of ASCII, signs and points, so that a text with
any other character in it is left alone (`verbatim_of_char`).

Where a list is needed, such a text is refused, and only the others are cut at their commas
(`asTexts_parse_of_isScalar`, `parse_of_not_isScalar`).
-/

import Remedy.Proofs.Settings.Plain
import Remedy.Proofs.Text.Numeral
import Remedy.Proofs.Text.Utf8
import Remedy.Settings.Section

namespace Remedy

/-! ### Small letters -/

namespace Character

/-- What is a letter in its small form is a letter. -/
theorem isAlpha_of_isAlpha_toLower {c : Char} (h : c.toLower.isAlpha = true) :
    c.isAlpha = true := by
  by_cases hc : c.toNat < 0x80
  · exact of_ascii (P := fun c => c.toLower.isAlpha = true → c.isAlpha = true) (by decide) hc h
  · have hsame : c.toLower = c := by
      unfold Char.toLower
      refine dif_neg fun hbounds => hc ?_
      have hle : c.toNat ≤ 90 := hbounds.2
      omega
    rwa [hsame] at h

/-- The only capital outside ASCII whose small letter is in ASCII is the sign for kelvin. -/
theorem capitalRuns_distance : ∀ run ∈ capitalRuns,
    (0x80 : Int) ≤ (run.1 : Int) + run.2.2.2 ∨ run = (0x212A, 0x212A, 1, -8383) := by
  decide +kernel

/-- Whether a character is a letter that no character outside ASCII has in its lower-case
form. -/
def isOwnLetter (c : Char) : Bool := c.isAlpha && c != 'i' && c != 'k'

/-- Letters that stand for themselves are of ASCII. -/
theorem isOwnLetter_lt {c : Char} (h : isOwnLetter c = true) : c.toNat < 0x80 ∧ 0x40 < c.toNat := by
  rw [isOwnLetter, Bool.and_assoc, Bool.and_eq_true] at h
  have hbounds : (decide (65 ≤ c.toNat ∧ c.toNat ≤ 90) ||
      decide (97 ≤ c.toNat) && decide (c.toNat ≤ 122)) = true := h.1
  simp only [Bool.or_eq_true, Bool.and_eq_true, decide_eq_true_eq] at hbounds
  omega

/-- Beyond ASCII no letter stands for itself. -/
theorem not_isOwnLetter_ofNat {n : Nat} (h : 0x80 ≤ n) : isOwnLetter (Char.ofNat n) = false := by
  refine Bool.eq_false_iff.2 fun hown => ?_
  obtain ⟨hlow, hhigh⟩ := isOwnLetter_lt hown
  by_cases hvalid : n.isValidChar
  · rw [Text.Utf8.toNat_charOfNat hvalid] at hlow
    omega
  · have hzero : (Char.ofNat n).toNat = 0 := by
      rw [Char.ofNat, dif_neg hvalid]
      rfl
    omega

/-- A character with such a letter as its lower-case form is a letter of ASCII. -/
theorem isAlpha_of_lowerChar {c : Char} (h : ∀ x ∈ lowerChar c, isOwnLetter x = true) :
    c.isAlpha = true := by
  unfold lowerChar at h
  simp only at h
  split at h
  · have hlower := h c.toLower (List.mem_singleton_self _)
    rw [isOwnLetter, Bool.and_assoc, Bool.and_eq_true] at hlower
    exact isAlpha_of_isAlpha_toLower hlower.1
  · next hc =>
    split at h
    · exact absurd (h 'i' List.mem_cons_self) (by decide)
    · split at h
      · next lo hi step distance hfind =>
        have hown := h _ (List.mem_singleton_self _)
        have hmem := List.mem_of_find?_eq_some hfind
        have hrun := List.find?_some hfind
        simp only [Bool.and_eq_true, decide_eq_true_eq] at hrun
        rcases capitalRuns_distance _ hmem with hdistance | hkelvin
        · simp only at hdistance
          rw [not_isOwnLetter_ofNat (by omega)] at hown
          cases hown
        · obtain ⟨rfl, rfl, rfl, rfl⟩ : lo = 0x212A ∧ hi = 0x212A ∧ step = 1 ∧ distance = -8383 := by
            simpa using hkelvin
          have hn : c.toNat = 0x212A := by omega
          rw [hn] at hown
          exact absurd hown (by decide)
      · have hown := isOwnLetter_lt (h c (List.mem_singleton_self _))
        omega

/-- What becomes letters of ASCII has been letters. -/
theorem isAlpha_of_lowerFrom {cs : List Char} : ∀ {before : List Char},
    (∀ x ∈ lowerFrom before cs, isOwnLetter x = true) → ∀ c ∈ cs, c.isAlpha = true := by
  induction cs with
  | nil => exact fun _ c hc => by cases hc
  | cons c cs ih =>
    intro before h
    rw [lowerFrom] at h
    refine List.forall_mem_cons.2 ⟨?_, ih fun x hx => h x (List.mem_append_right _ hx)⟩
    split at h
    · have hsigma := h _ (List.mem_append_left _ (List.mem_singleton_self _))
      split at hsigma
      · exact absurd hsigma (by decide)
      · exact absurd hsigma (by decide)
    · exact isAlpha_of_lowerChar fun x hx => h x (List.mem_append_left _ hx)

end Character

namespace Settings

/-! ### The characters of scalars -/

/-- Whether truth values and numbers may be spelled with a character. -/
def isScalarChar (c : Char) : Bool := c.isAlphanum || c = '+' || c = '-' || c = '.'

variable {c : Char} {cs ds : List Char}

/-- Letters may stand in a scalar. -/
theorem isScalarChar_of_isAlpha (h : c.isAlpha = true) : isScalarChar c = true := by
  rw [isScalarChar, Char.isAlphanum, h]
  rfl

/-- Digits may stand in a scalar. -/
theorem isScalarChar_of_isDigit (h : c.isDigit = true) : isScalarChar c = true := by
  rw [isScalarChar, Char.isAlphanum, h, Bool.or_true]
  rfl

/-- A word that is spelled in any case. -/
theorem isScalarChar_of_lowercase {t word : String} (h : Character.lowercase t = word)
    (hword : word.toList.all Character.isOwnLetter = true) :
    ∀ c ∈ t.toList, isScalarChar c = true := by
  have hlower : Character.lowerFrom [] t.toList = word.toList := by
    rw [← h, Character.lowercase, String.toList_ofList]
  have halpha := Character.isAlpha_of_lowerFrom (by rw [hlower]; exact List.all_eq_true.1 hword)
  exact fun c hc => isScalarChar_of_isAlpha (halpha c hc)

/-- Truth values are made of what may stand in a scalar. -/
theorem isScalarChar_of_bool? {t : String} {b : Bool} (h : Section.bool? t = some b) :
    ∀ c ∈ t.toList, isScalarChar c = true := by
  unfold Section.bool? at h
  split at h
  · next hword => exact isScalarChar_of_lowercase hword (by decide)
  · next hword => exact isScalarChar_of_lowercase hword (by decide)
  · cases h

/-- What is read as digits is made of what may stand in a scalar. -/
theorem isScalarChar_of_digitsValue? {n : Nat} (h : Text.digitsValue? cs = some n) :
    ∀ c ∈ cs, isScalarChar c = true :=
  fun c hc => isScalarChar_of_isDigit ((Text.digitsValue?_eq_some_iff.1 h).2.1 c hc)

/-- A plus in front may stand in a scalar. -/
theorem isScalarChar_of_dropPlus (h : ∀ c ∈ Text.dropPlus cs, isScalarChar c = true) :
    ∀ c ∈ cs, isScalarChar c = true := by
  unfold Text.dropPlus at h
  split at h
  · exact List.forall_mem_cons.2 ⟨by decide, h⟩
  · exact h

/-- Whole numbers are made of what may stand in a scalar. -/
theorem isScalarChar_of_signed? {n : Int} (h : Text.signed? cs = some n) :
    ∀ c ∈ cs, isScalarChar c = true := by
  rcases Text.signed?_cases h with ⟨ds, m, rfl, hm, -⟩ | ⟨-, m, hm, -⟩
  · exact List.forall_mem_cons.2 ⟨by decide, isScalarChar_of_digitsValue? hm⟩
  · exact isScalarChar_of_dropPlus (isScalarChar_of_digitsValue? hm)

/-- Exponents are made of what may stand in a scalar. -/
theorem isScalarChar_of_exponent? {e : Int} (h : Binary64.exponent? cs = some e) :
    ∀ c ∈ cs, isScalarChar c = true := by
  unfold Binary64.exponent? at h
  split at h
  · exact fun _ hc => by cases hc
  · next c rest =>
    split at h
    · next he =>
      have hc : isScalarChar c = true := by
        rw [Bool.or_eq_true, decide_eq_true_eq, decide_eq_true_eq] at he
        rcases he with rfl | rfl <;> decide
      refine List.forall_mem_cons.2 ⟨hc, ?_⟩
      split at h
      · obtain ⟨n, hn, -⟩ := Text.exists_of_map_cast h
        exact List.forall_mem_cons.2 ⟨by decide, isScalarChar_of_digitsValue? hn⟩
      · obtain ⟨n, hn, -⟩ := Text.exists_of_map_cast h
        exact isScalarChar_of_dropPlus (isScalarChar_of_digitsValue? hn)
    · cases h

/-- It is enough to look at what follows some digits. -/
theorem isScalarChar_of_dropWhile (h : ∀ c ∈ cs.dropWhile Char.isDigit, isScalarChar c = true) :
    ∀ c ∈ cs, isScalarChar c = true := by
  intro c hc
  rw [← List.takeWhile_append_dropWhile (p := Char.isDigit) (l := cs)] at hc
  rcases List.mem_append.1 hc with hdigits | hrest
  · exact isScalarChar_of_isDigit (List.mem_takeWhile_imp hdigits)
  · exact h c hrest

/-- What follows the whole part of a decimal is a fraction and the rest. -/
theorem isScalarChar_of_fraction (h : ∀ c ∈ (Binary64.fraction cs).2, isScalarChar c = true) :
    ∀ c ∈ cs, isScalarChar c = true := by
  unfold Binary64.fraction at h
  split at h
  · exact List.forall_mem_cons.2 ⟨by decide, isScalarChar_of_dropWhile h⟩
  · exact h

/-- Decimal numbers are made of what may stand in a scalar. -/
theorem isScalarChar_of_readDecimal? {negative : Bool} {x : Binary64}
    (h : Binary64.readDecimal? negative cs = some x) : ∀ c ∈ cs, isScalarChar c = true := by
  unfold Binary64.readDecimal? at h
  simp only at h
  split at h
  · cases h
  · obtain ⟨e, he, -⟩ := Option.map_eq_some_iff.1 h
    exact isScalarChar_of_dropWhile (isScalarChar_of_fraction (isScalarChar_of_exponent? he))

/-- A word of letters in any case is made of what may stand in a scalar. -/
theorem isScalarChar_of_map_toLower {word : String} (h : String.ofList (cs.map Char.toLower) = word)
    (hword : word.toList.all Char.isAlpha = true) : ∀ c ∈ cs, isScalarChar c = true := by
  intro c hc
  refine isScalarChar_of_isAlpha (Character.isAlpha_of_isAlpha_toLower ?_)
  refine List.all_eq_true.1 hword c.toLower ?_
  rw [← h, String.toList_ofList]
  exact List.mem_map_of_mem hc

/-- Numbers without a sign are made of what may stand in a scalar. -/
theorem isScalarChar_of_readUnsigned? {negative : Bool} {x : Binary64}
    (h : Binary64.readUnsigned? negative cs = some x) : ∀ c ∈ cs, isScalarChar c = true := by
  unfold Binary64.readUnsigned? at h
  simp only at h
  split at h
  · next hword =>
    rw [Bool.or_eq_true, decide_eq_true_eq, decide_eq_true_eq] at hword
    rcases hword with hword | hword
    · exact isScalarChar_of_map_toLower hword (by decide)
    · exact isScalarChar_of_map_toLower hword (by decide)
  · split at h
    · next hword => exact isScalarChar_of_map_toLower hword (by decide)
    · exact isScalarChar_of_readDecimal? h

/-- Numbers with a sign are made of what may stand in a scalar. -/
theorem isScalarChar_of_read? {x : Binary64} (h : Binary64.read? cs = some x) :
    ∀ c ∈ cs, isScalarChar c = true := by
  unfold Binary64.read? at h
  split at h
  · exact List.forall_mem_cons.2 ⟨by decide, isScalarChar_of_readUnsigned? h⟩
  · exact List.forall_mem_cons.2 ⟨by decide, isScalarChar_of_readUnsigned? h⟩
  · exact isScalarChar_of_readUnsigned? h

/-! ### Written anew -/

/-- **What a text is written as once it has been parsed:** it is read as a truth value if it
spells one, else as a whole number, and else as any other number; and it stays as it is if it
spells none of these. -/
inductive Respelled (t : String) : String → Prop where
  | truth {b : Bool} (h : Section.bool? t = some b) : Respelled t (toString b)
  | whole {n : Int} (hb : Section.bool? t = none) (h : Text.signed? t.toList = some n) :
      Respelled t (toString n)
  | real {x : Binary64} (hb : Section.bool? t = none) (hn : Text.signed? t.toList = none)
      (h : Binary64.read? t.toList = some x) : Respelled t x.toText
  | text (hb : Section.bool? t = none) (hn : Text.signed? t.toList = none)
      (hx : Binary64.read? t.toList = none) : Respelled t t

/-- **Whether a text is spelled as it would be written anew,** in case it spells a truth value or
a number. -/
structure Verbatim (t : String) : Prop where
  truth : ∀ b, Section.bool? t = some b → t = toString b
  whole : Section.bool? t = none → ∀ n, Text.signed? t.toList = some n →
    Text.IsWholeNumeral t.toList
  real : Section.bool? t = none → Text.signed? t.toList = none →
    ∀ x, Binary64.read? t.toList = some x → t = x.toText

section
variable {s : Section} {setting t w : String}

/-- What a text in a parsed section is read as where a text is needed. -/
theorem asText_parse (hl : s.lists.contains setting = false) :
    (s.parse setting t).asText = .ok w ↔ Respelled t w := by
  unfold Section.parse
  constructor
  · intro h
    split at h
    · next b hb =>
      obtain rfl := Except.ok.inj h
      exact .truth hb
    · next hb =>
      split at h
      · next n hn =>
        obtain rfl := Except.ok.inj h
        exact .whole hb hn
      · next hn =>
        split at h
        · next x hx =>
          obtain rfl := Except.ok.inj h
          exact .real hb hn hx
        · next hx =>
          rw [if_neg (Bool.eq_false_iff.1 hl)] at h
          obtain rfl := Except.ok.inj h
          exact .text hb hn hx
  · intro h
    cases h with
    | truth hb => simp only [hb, Value.asText]
    | whole hb hn => simp only [hb, hn, Value.asText]
    | real hb hn hx => simp only [hb, hn, hx, Value.asText]
    | text hb hn hx => simp only [hb, hn, hx, hl, Value.asText, Bool.false_eq_true, if_false]

/-- A text is written anew in one way. -/
theorem Respelled.unique {w' : String} (h : Respelled t w) (h' : Respelled t w') : w = w' := by
  have hnone : (⟨"", true, []⟩ : Section).lists.contains "" = false := rfl
  have hw := (asText_parse hnone).2 h
  rw [(asText_parse hnone).2 h'] at hw
  exact (Except.ok.inj hw).symm

/-- Every text is written anew. -/
theorem exists_respelled (t : String) : ∃ w, Respelled t w := by
  cases hb : Section.bool? t with
  | some b => exact ⟨_, .truth hb⟩
  | none =>
    cases hn : Text.signed? t.toList with
    | some n => exact ⟨_, .whole hb hn⟩
    | none =>
      cases hx : Binary64.read? t.toList with
      | some x => exact ⟨_, .real hb hn hx⟩
      | none => exact ⟨_, .text hb hn hx⟩

/-- **A text stays as it is if and only if it is spelled as it would be written anew.** -/
theorem respelled_self_iff : Respelled t t ↔ Verbatim t := by
  constructor
  · intro h
    refine ⟨fun b hb => h.unique (.truth hb), fun hb n hn => ?_,
      fun hb hn x hx => h.unique (.real hb hn hx)⟩
    exact (Text.toString_signed?_iff hn).1 ((Respelled.whole hb hn).unique h)
  · intro h
    obtain ⟨w, hw⟩ := exists_respelled t
    have hsame : w = t := by
      cases hw with
      | truth hb => exact (h.truth _ hb).symm
      | whole hb hn => exact (Text.toString_signed?_iff hn).2 (h.whole hb _ hn)
      | real hb hn hx => exact (h.real hb hn _ hx).symm
      | text _ _ _ => rfl
    rwa [hsame] at hw

/-- **A text with any other character in it stays as it is.** -/
theorem verbatim_of_char (h : ∃ c ∈ t.toList, isScalarChar c = false) : Verbatim t := by
  obtain ⟨c, hc, hother⟩ := h
  have hnone : ¬∀ c ∈ t.toList, isScalarChar c = true := fun hall => by
    rw [hall c hc] at hother
    cases hother
  exact ⟨fun b hb => absurd (isScalarChar_of_bool? hb) hnone,
    fun _ n hn => absurd (isScalarChar_of_signed? hn) hnone,
    fun _ _ x hx => absurd (isScalarChar_of_read? hx) hnone⟩

end

/-! ### Lists -/

/-- Whether a text spells a truth value or a number. -/
inductive IsScalar (t : String) : Prop where
  | truth {b : Bool} (h : Section.bool? t = some b) : IsScalar t
  | whole {n : Int} (h : Text.signed? t.toList = some n) : IsScalar t
  | real {x : Binary64} (h : Binary64.read? t.toList = some x) : IsScalar t

section
variable {s : Section} {setting t : String}

/-- **A scalar is made of what may stand in one.** -/
theorem isScalarChar_of_isScalar (h : IsScalar t) : ∀ c ∈ t.toList, isScalarChar c = true := by
  cases h with
  | truth hb => exact isScalarChar_of_bool? hb
  | whole hn => exact isScalarChar_of_signed? hn
  | real hx => exact isScalarChar_of_read? hx

/-- A text that spells no truth value and no number is cut at its commas where a list is
needed. -/
theorem parse_of_not_isScalar (hl : s.lists.contains setting = true) (h : ¬IsScalar t) :
    s.parse setting t = .list true ((Text.splitAt ',' t).map .text) := by
  have hb : Section.bool? t = none :=
    Option.eq_none_iff_forall_ne_some.2 fun _ hb => h (.truth hb)
  have hn : Text.signed? t.toList = none :=
    Option.eq_none_iff_forall_ne_some.2 fun _ hn => h (.whole hn)
  have hx : Binary64.read? t.toList = none :=
    Option.eq_none_iff_forall_ne_some.2 fun _ hx => h (.real hx)
  simp only [Section.parse, hb, hn, hx, hl, if_true]

/-- **A text that spells a truth value or a number is no list,** also where one is needed. -/
theorem asTexts_parse_of_isScalar (h : IsScalar t) (name : String) :
    (s.parse setting t).asTexts name =
      .error (.mistyped (s.parse setting t).describedNotList "a sequence" none false) := by
  unfold Section.parse
  split
  · rfl
  · next hb =>
    split
    · rfl
    · next hn =>
      split
      · rfl
      · next hx =>
        cases h with
        | truth hb' => rw [hb] at hb'; cases hb'
        | whole hn' => rw [hn] at hn'; cases hn'
        | real hx' => rw [hx] at hx'; cases hx'

/-- The texts of a list of texts. -/
theorem asTexts_list (name : String) (declared : Bool) (ts : List String) :
    (Value.list declared (ts.map .text)).asTexts name = .ok ts := by
  have hfrom : ∀ n, Value.textsFrom name n (ts.map .text) = .ok ts := by
    induction ts with
    | nil => exact fun _ => rfl
    | cons t ts ih =>
      intro n
      rw [List.map_cons, Value.textsFrom, ih (n + 1)]
      rfl
  exact hfrom 0

end

end Settings
end Remedy
