/-
# Percent encoding of a single character

Where a character is replaced by a code that begins with another one, the text that comes of it
tells what the first one was up to that replacement: putting the character back for the code comes
to the same before and after (`IsCode.substitute_eq_iff`).

Decoding undoes the replacement of a slash (`decode_encode_substitute`), but it also decodes what
has been in the text before, and so the text itself is what is read if and only if nothing in it is
written by digits (`decode_encode_eq_iff`).
-/

import Remedy.Messaging.Uri
import Remedy.Proofs.Settings.Plain
import Remedy.Proofs.Text.Pieces
import Remedy.Proofs.Text.Utf8

namespace Remedy
namespace Text

/-! ### A code for a character -/

section
variable {m k : Char} {tail : List Char}

/-- Another character is kept when one character is replaced. -/
theorem substitute_singleton_of_ne {c : Char} (hc : c ≠ m) (value cs : List Char) :
    substitute [m] value (c :: cs) = c :: substitute [m] value cs := by
  refine substitute_cons (List.cons_ne_nil m []) value fun hp => hc ?_
  exact (List.cons_prefix_cons.1 hp).1.symm

/-- A mark is substituted where it stands. -/
theorem substitute_singleton_self (value cs : List Char) :
    substitute [m] value (m :: cs) = value ++ substitute [m] value cs :=
  substitute_append (List.cons_ne_nil m []) value cs

/-- What does not hold the character is kept. -/
theorem substitute_singleton_append {before : List Char} (h : m ∉ before) (value cs : List Char) :
    substitute [m] value (before ++ cs) = before ++ substitute [m] value cs := by
  induction before with
  | nil => rfl
  | cons c before ih =>
    rw [List.mem_cons, not_or] at h
    rw [List.cons_append, substitute_singleton_of_ne (Ne.symm h.1), ih h.2, List.cons_append]

/-- A character that is replaced by something else is gone. -/
theorem not_mem_substitute {value : List Char} (h : m ∉ value) (cs : List Char) :
    m ∉ substitute [m] value cs := by
  induction cs with
  | nil => exact List.not_mem_nil
  | cons c cs ih =>
    by_cases hc : c = m
    · rw [hc, substitute_singleton_self, List.mem_append, not_or]
      exact ⟨h, ih⟩
    · rw [substitute_singleton_of_ne hc, List.mem_cons, not_or]
      exact ⟨Ne.symm hc, ih⟩

/-- A part of the code that stands in the text has stood there before. -/
theorem prefix_of_prefix_substitute {part : List Char} (hm : m ∉ part) (hk : k ∉ part) :
    ∀ {cs : List Char}, part <+: substitute [m] (k :: tail) cs → part <+: cs := by
  induction part with
  | nil => exact fun _ => List.nil_prefix
  | cons c part ih =>
    rw [List.mem_cons, not_or] at hm hk
    intro cs hp
    cases cs with
    | nil => exact absurd (List.prefix_nil.1 hp) (List.cons_ne_nil c part)
    | cons d cs =>
      by_cases hd : d = m
      · rw [hd, substitute_singleton_self, List.cons_append] at hp
        exact absurd (List.cons_prefix_cons.1 hp).1.symm hk.1
      · rw [substitute_singleton_of_ne hd] at hp
        obtain ⟨rfl, hrest⟩ := List.cons_prefix_cons.1 hp
        exact List.cons_prefix_cons.2 ⟨rfl, ih hm.2 hk.2 hrest⟩

/-- Whether a code may stand for `m`: neither that character nor its own first one is in the rest
of it, so that it does not overlap with anything. -/
structure IsCode (m k : Char) (tail : List Char) : Prop where
  ne : m ≠ k
  mark : m ∉ tail
  first : k ∉ tail

variable (h : IsCode m k tail)
include h

/-- A code does not hold what it stands for. -/
theorem IsCode.not_mem : m ∉ k :: tail := by
  rw [List.mem_cons, not_or]
  exact ⟨h.ne, h.mark⟩

/-- The code put in for the character is found when the character is put back. -/
theorem IsCode.substitute_code (cs : List Char) :
    substitute (k :: tail) [m] (substitute [m] (k :: tail) cs) = substitute (k :: tail) [m] cs := by
  have hcode : k :: tail ≠ [] := List.cons_ne_nil k tail
  induction cs using mark_induction hcode with
  | nil => rfl
  | occurrence rest ih =>
    rw [substitute_singleton_append h.not_mem, substitute_append hcode, substitute_append hcode, ih]
  | char c cs hp ih =>
    by_cases hc : c = m
    · rw [hc] at hp ⊢
      rw [substitute_singleton_self, substitute_append hcode, substitute_cons hcode _ hp, ih,
        List.singleton_append]
    · have hlater : ¬k :: tail <+: c :: substitute [m] (k :: tail) cs := by
        intro hq
        obtain ⟨rfl, hrest⟩ := List.cons_prefix_cons.1 hq
        exact hp (List.cons_prefix_cons.2 ⟨rfl, prefix_of_prefix_substitute h.mark h.first hrest⟩)
      rw [substitute_singleton_of_ne hc, substitute_cons hcode _ hlater, substitute_cons hcode _ hp,
        ih]

/-- The character put in for the code is replaced by it again. -/
theorem IsCode.substitute_mark (cs : List Char) :
    substitute [m] (k :: tail) (substitute (k :: tail) [m] cs) = substitute [m] (k :: tail) cs := by
  have hcode : k :: tail ≠ [] := List.cons_ne_nil k tail
  induction cs using mark_induction hcode with
  | nil => rfl
  | occurrence rest ih =>
    rw [substitute_append hcode, List.singleton_append, substitute_singleton_self,
      substitute_singleton_append h.not_mem, ih]
  | char c cs hp ih =>
    rw [substitute_cons hcode _ hp]
    by_cases hc : c = m
    · rw [hc, substitute_singleton_self, substitute_singleton_self, ih]
    · rw [substitute_singleton_of_ne hc, substitute_singleton_of_ne hc, ih]

/-- **Texts in which a character is replaced by a code are the same if and only if they are the
same with the character for the code.** -/
theorem IsCode.substitute_eq_iff {cs ds : List Char} :
    substitute [m] (k :: tail) cs = substitute [m] (k :: tail) ds ↔
      substitute (k :: tail) [m] cs = substitute (k :: tail) [m] ds := by
  constructor
  · intro heq
    rw [← h.substitute_code cs, heq, h.substitute_code]
  · intro heq
    rw [← h.substitute_mark cs, heq, h.substitute_mark]

end

/-! ### Decoding -/

namespace Percent

/-- Whether bytes begin with one that is written by digits. -/
def IsEscape (bytes : List UInt8) : Prop :=
  ∃ b c rest, bytes = 0x25 :: b :: c :: rest ∧ (digit? b).isSome = true ∧ (digit? c).isSome = true

/-- Whether some byte is written by digits. -/
def HasEscape (bytes : List UInt8) : Prop :=
  ∃ b c, [0x25, b, c] <:+: bytes ∧ (digit? b).isSome = true ∧ (digit? c).isSome = true

variable {a b c : UInt8} {bytes rest : List UInt8}

/-- An escape is at the front or after it. -/
theorem hasEscape_cons_iff : HasEscape (a :: bytes) ↔ IsEscape (a :: bytes) ∨ HasEscape bytes := by
  constructor
  · rintro ⟨b, c, hpart, hb, hc⟩
    rcases List.infix_cons_iff.1 hpart with ⟨rest, hrest⟩ | hpart
    · exact .inl ⟨b, c, rest, hrest.symm, hb, hc⟩
    · exact .inr ⟨b, c, hpart, hb, hc⟩
  · rintro (⟨b, c, rest, hbytes, hb, hc⟩ | ⟨b, c, hpart, hb, hc⟩)
    · exact ⟨b, c, List.infix_cons_iff.2 (.inl ⟨rest, hbytes.symm⟩), hb, hc⟩
    · exact ⟨b, c, List.infix_cons_iff.2 (.inr hpart), hb, hc⟩

/-- **A byte that is not written by digits stands for itself.** -/
theorem decode_cons (h : ¬IsEscape (a :: bytes)) : decode (a :: bytes) = a :: decode bytes := by
  match bytes with
  | [] => rfl
  | [b] => rfl
  | b :: c :: rest =>
    rw [decode]
    split
    · next high low hb hc =>
      split
      · next ha =>
        exact absurd ⟨b, c, rest, by rw [ha], by rw [hb]; rfl, by rw [hc]; rfl⟩ h
      · rfl
    · rfl

/-- A byte that is no percent sign stands for itself. -/
theorem decode_cons_of_ne (h : a ≠ 0x25) (bytes : List UInt8) :
    decode (a :: bytes) = a :: decode bytes :=
  decode_cons fun ⟨_, _, _, hbytes, _, _⟩ => h (List.cons.inj hbytes).1

/-- A byte that is written by digits is put in their place. -/
theorem decode_escape {high low : UInt8} (hb : digit? b = some high) (hc : digit? c = some low)
    (rest : List UInt8) : decode (0x25 :: b :: c :: rest) = (16 * high + low) :: decode rest := by
  rw [decode, hb, hc]
  rfl

/-- An escape of three bytes becomes one. -/
theorem exists_decode_escape (h : IsEscape bytes) :
    ∃ x rest, decode bytes = x :: decode rest ∧ bytes.length = rest.length + 3 := by
  obtain ⟨b, c, rest, rfl, hb, hc⟩ := h
  obtain ⟨high, hb⟩ := Option.isSome_iff_exists.1 hb
  obtain ⟨low, hc⟩ := Option.isSome_iff_exists.1 hc
  exact ⟨_, rest, decode_escape hb hc rest, rfl⟩

/-- Decoding makes nothing longer. -/
theorem length_decode_le (bytes : List UInt8) : (decode bytes).length ≤ bytes.length := by
  induction hn : bytes.length using Nat.strong_induction_on generalizing bytes with
  | _ n ih =>
  by_cases h : IsEscape bytes
  · obtain ⟨x, rest, hdecode, hlength⟩ := exists_decode_escape h
    have hrest := ih rest.length (by omega) rest rfl
    rw [hdecode, List.length_cons]
    omega
  · cases bytes with
    | nil => exact Nat.zero_le n
    | cons a bytes =>
      rw [List.length_cons] at hn
      have hrest := ih bytes.length (by omega) bytes rfl
      rw [decode_cons h, List.length_cons]
      omega

/-- **Decoding changes bytes if and only if some byte is written by digits.** -/
theorem decode_eq_self_iff : decode bytes = bytes ↔ ¬HasEscape bytes := by
  induction bytes with
  | nil => exact iff_of_true rfl fun ⟨_, _, hpart, _⟩ => by cases List.infix_nil.1 hpart
  | cons a bytes ih =>
    rw [hasEscape_cons_iff, not_or]
    constructor
    · intro heq
      have hescape : ¬IsEscape (a :: bytes) := by
        intro h
        obtain ⟨x, rest, hdecode, hlength⟩ := exists_decode_escape h
        have hshorter := length_decode_le rest
        have hsame := congrArg List.length (hdecode.symm.trans heq)
        rw [List.length_cons] at hsame
        omega
      rw [decode_cons hescape] at heq
      exact ⟨hescape, ih.1 (List.cons.inj heq).2⟩
    · rintro ⟨hescape, hrest⟩
      rw [decode_cons hescape, ih.2 hrest]

/-! ### Digits in a text -/

/-- Whether a character is a hexadecimal digit, of either case. -/
def isHexDigit (c : Char) : Bool := "0123456789abcdefABCDEF".toList.contains c

/-- Hexadecimal digits are in ASCII. -/
theorem lt_of_isHexDigit {c : Char} (h : isHexDigit c = true) : c.toNat < 0x80 := by
  have hall : ("0123456789abcdefABCDEF".toList.all fun c => decide (c.toNat < 0x80)) = true := by
    decide
  exact of_decide_eq_true (List.all_eq_true.1 hall c (List.contains_iff_mem.1 h))

/-- A hexadecimal digit is of ASCII. -/
theorem lt_of_isSome_digit? (h : (digit? b).isSome = true) : b.toNat < 0x80 := by
  have hbounds : b ≤ 0x39 ∨ b ≤ 0x46 ∨ b ≤ 0x66 := by
    unfold digit? at h
    simp only [Bool.and_eq_true, decide_eq_true_eq] at h
    split_ifs at h with h₁ h₂ h₃
    · exact .inl h₁.2
    · exact .inr (.inl h₂.2)
    · exact .inr (.inr h₃.2)
    · cases h
  simp only [UInt8.le_iff_toNat_le] at hbounds
  change b.toNat ≤ 0x39 ∨ b.toNat ≤ 0x46 ∨ b.toNat ≤ 0x66 at hbounds
  omega

/-- Within ASCII digits are the same for bytes and characters. -/
theorem isSome_digit?_ofNat {c : Char} (h : c.toNat < 0x80) :
    (digit? (UInt8.ofNat c.toNat)).isSome = isHexDigit c :=
  Character.of_ascii (P := fun c => (digit? (UInt8.ofNat c.toNat)).isSome = isHexDigit c)
    (by decide +kernel) h

/-- **Whether a text has a character in it that is written by digits.** -/
def Escaped (cs : List Char) : Prop :=
  ∃ high low, ['%', high, low] <:+: cs ∧ isHexDigit high = true ∧ isHexDigit low = true

section
variable {high low : Char} (hhigh : high.toNat < 0x80) (hlow : low.toNat < 0x80)
include hhigh hlow

/-- An escape is of ASCII. -/
theorem ascii_escape : ∀ c ∈ ['%', high, low], c.toNat < 0x80 := by
  intro c hc
  simp only [List.mem_cons, List.not_mem_nil, or_false] at hc
  rcases hc with rfl | rfl | rfl
  · decide
  · exact hhigh
  · exact hlow

/-- An escape is among the bytes just where it is among the characters. -/
theorem infix_encode_escape_iff {cs : List Char} :
    [0x25, UInt8.ofNat high.toNat, UInt8.ofNat low.toNat] <:+: Utf8.encode cs ↔
      ['%', high, low] <:+: cs := by
  have hascii := ascii_escape hhigh hlow
  have hbytes : Utf8.encode ['%', high, low] =
      [0x25, UInt8.ofNat high.toNat, UInt8.ofNat low.toNat] := Utf8.encode_of_ascii hascii
  rw [← hbytes, Utf8.infix_encode_iff hascii (List.cons_ne_nil _ _)]

end

/-- Bytes written by digits are characters written by digits. -/
theorem hasEscape_encode_iff {cs : List Char} : HasEscape (Utf8.encode cs) ↔ Escaped cs := by
  constructor
  · rintro ⟨b, c, hbytes, hb, hc⟩
    have hchar : ∀ {b : UInt8}, (digit? b).isSome = true →
        ∃ d : Char, d.toNat < 0x80 ∧ UInt8.ofNat d.toNat = b := by
      intro b hb
      have hlt := lt_of_isSome_digit? hb
      have hd : (Char.ofNat b.toNat).toNat = b.toNat := Utf8.toNat_charOfNat (.inl (by omega))
      exact ⟨Char.ofNat b.toNat, by omega, by rw [hd, UInt8.ofNat_toNat]⟩
    obtain ⟨high, hhigh, rfl⟩ := hchar hb
    obtain ⟨low, hlow, rfl⟩ := hchar hc
    rw [isSome_digit?_ofNat hhigh] at hb
    rw [isSome_digit?_ofNat hlow] at hc
    exact ⟨high, low, (infix_encode_escape_iff hhigh hlow).1 hbytes, hb, hc⟩
  · rintro ⟨high, low, hchars, hhigh, hlow⟩
    have hhigh' := lt_of_isHexDigit hhigh
    have hlow' := lt_of_isHexDigit hlow
    refine ⟨_, _, (infix_encode_escape_iff hhigh' hlow').2 hchars, ?_, ?_⟩
    · rw [isSome_digit?_ofNat hhigh', hhigh]
    · rw [isSome_digit?_ofNat hlow', hlow]

/-! ### A slash that is written by digits -/

/-- A byte with digits in place of a slash. -/
def slashed (b : UInt8) : List UInt8 := if b = 0x2F then [0x25, 0x32, 0x66] else [b]

/-- What is no slash stays as it is. -/
theorem slashed_of_ne (h : b ≠ 0x2F) : slashed b = [b] := if_neg h

/-- Where a digit comes first there has been that digit. -/
theorem exists_of_slashed_eq_cons (h : bytes.flatMap slashed = b :: rest)
    (hb : (digit? b).isSome = true) : ∃ bytes', bytes = b :: bytes' ∧ bytes'.flatMap slashed = rest := by
  cases bytes with
  | nil => cases h
  | cons d bytes =>
    rw [List.flatMap_cons, slashed] at h
    split at h
    · -- a slash has become a percent sign, which is no digit
      rw [← (List.cons.inj h).1] at hb
      exact absurd hb (by decide)
    · obtain ⟨rfl, hrest⟩ := List.cons.inj h
      exact ⟨bytes, rfl, hrest⟩

/-- **Decoding undoes the replacement of slashes,** and does what it would have done besides. -/
theorem decode_flatMap_slashed (bytes : List UInt8) :
    decode (bytes.flatMap slashed) = decode bytes := by
  induction hn : bytes.length using Nat.strong_induction_on generalizing bytes with
  | _ n ih =>
  cases bytes with
  | nil => rfl
  | cons a bytes =>
    rw [List.length_cons] at hn
    have hih := ih bytes.length (by omega) bytes rfl
    by_cases ha : a = 0x2F
    · have hcode : (a :: bytes).flatMap slashed = 0x25 :: 0x32 :: 0x66 :: bytes.flatMap slashed := by
        rw [ha]
        rfl
      have htwo : digit? 0x32 = some 2 := by decide
      have hfifteen : digit? 0x66 = some 15 := by decide
      rw [hcode, decode_escape htwo hfifteen, hih, ha, decode_cons_of_ne (by decide)]
      rfl
    · have hkept : (a :: bytes).flatMap slashed = a :: bytes.flatMap slashed := by
        rw [List.flatMap_cons, slashed_of_ne ha, List.singleton_append]
      rw [hkept]
      by_cases hescape : IsEscape (a :: bytes)
      · obtain ⟨b, c, rest, hbytes, hb, hc⟩ := hescape
        obtain ⟨rfl, rfl⟩ := List.cons.inj hbytes
        have hdigit : ∀ {d : UInt8}, (digit? d).isSome = true → d ≠ 0x2F := by
          rintro d hd rfl
          exact absurd hd (by decide)
        have hshorter : rest.length < n := by
          rw [← hn, List.length_cons, List.length_cons]
          omega
        rw [List.flatMap_cons, List.flatMap_cons, slashed_of_ne (hdigit hb),
          slashed_of_ne (hdigit hc), List.singleton_append, List.singleton_append]
        obtain ⟨high, hb⟩ := Option.isSome_iff_exists.1 hb
        obtain ⟨low, hc⟩ := Option.isSome_iff_exists.1 hc
        rw [decode_escape hb hc, decode_escape hb hc, ih rest.length hshorter rest rfl]
      · have hlater : ¬IsEscape (a :: bytes.flatMap slashed) := by
          rintro ⟨b, c, rest, hbytes, hb, hc⟩
          obtain ⟨rfl, hrest⟩ := List.cons.inj hbytes
          obtain ⟨bytes', rfl, hlow⟩ := exists_of_slashed_eq_cons hrest hb
          obtain ⟨rest', rfl, -⟩ := exists_of_slashed_eq_cons hlow hc
          exact hescape ⟨b, c, rest', rfl, hb, hc⟩
        rw [decode_cons hlater, decode_cons hescape, hih]

/-- Only a slash has the byte of a slash. -/
theorem not_mem_utf8EncodeChar {c : Char} (h : c ≠ '/') : 0x2F ∉ String.utf8EncodeChar c := by
  intro hmem
  by_cases hc : c.toNat < 0x80
  · rw [Utf8.utf8EncodeChar_of_ascii hc, List.mem_singleton] at hmem
    have hnumber := congrArg UInt8.toNat hmem
    rw [Utf8.toNat_ofNat_of_lt (by omega)] at hnumber
    exact h (Char.toNat_inj.1 hnumber.symm)
  · exact absurd (Utf8.le_of_mem_utf8EncodeChar (Nat.le_of_not_lt hc) hmem) (by decide)

/-- Bytes without a slash stay as they are. -/
theorem flatMap_slashed_of_not_mem (h : 0x2F ∉ bytes) : bytes.flatMap slashed = bytes := by
  induction bytes with
  | nil => rfl
  | cons b bytes ih =>
    rw [List.mem_cons, not_or] at h
    rw [List.flatMap_cons, slashed_of_ne (Ne.symm h.1), ih h.2, List.singleton_append]

/-- Slashes are replaced in the bytes of a text as they are in the text. -/
theorem encode_substitute_slash (cs : List Char) :
    Utf8.encode (substitute ['/'] ['%', '2', 'f'] cs) = (Utf8.encode cs).flatMap slashed := by
  induction cs with
  | nil => rfl
  | cons c cs ih =>
    by_cases hc : c = '/'
    · have hslash : Utf8.encode ('/' :: cs) = 0x2F :: Utf8.encode cs := rfl
      rw [hc, substitute_singleton_self, Utf8.encode_append, ih, hslash, List.flatMap_cons]
      rfl
    · rw [substitute_singleton_of_ne hc, Utf8.encode_cons, Utf8.encode_cons, ih,
        List.flatMap_append, flatMap_slashed_of_not_mem (not_mem_utf8EncodeChar hc)]

/-- **What is read from a text with its slashes replaced** is what is read from the text. -/
theorem decode_encode_substitute (cs : List Char) :
    decode (Utf8.encode (substitute ['/'] ['%', '2', 'f'] cs)) = decode (Utf8.encode cs) := by
  rw [encode_substitute_slash, decode_flatMap_slashed]

/-- **A text is what is read from it if and only if nothing in it is written by digits.** -/
theorem decode_encode_eq_iff {cs : List Char} :
    decode (Utf8.encode cs) = Utf8.encode cs ↔ ¬Escaped cs := by
  rw [decode_eq_self_iff, hasEscape_encode_iff]

end Percent
end Text
end Remedy
