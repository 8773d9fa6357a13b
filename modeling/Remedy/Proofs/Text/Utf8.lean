/-
# Reading UTF-8 undoes writing it

The reader goes along the encoding of a character byte by byte: the first byte either is the
character or opens it, and the bytes after that complete it (`Open.Completes`).  No other
bytes do (`utf8EncodeChar_of_whole`, `utf8EncodeChar_of_completes`), and so bytes are read as
a text if and only if they encode it (`decode_eq_ok_iff`).
-/

import Mathlib.Tactic.SplitIfs
import Remedy.Proofs.Results
import Remedy.Text.Utf8

namespace Remedy
namespace Text
namespace Utf8

/-- Whether bytes lead from an open character to the end of it. -/
inductive Open.Completes : Open → List UInt8 → Char → Prop
  | done {o : Open} {b : UInt8} {c : Char} (h : o.next b = .done c) : Completes o [b] c
  | more {o p : Open} {b : UInt8} {bs : List UInt8} {c : Char} (h : o.next b = .more p)
      (hp : Completes p bs c) : Completes o (b :: bs) c

/-! ### Single bytes -/

/-- When a byte finishes a character. -/
theorem Open.next_eq_done_iff {o : Open} {b : UInt8} {c : Char} :
    o.next b = .done c ↔ o.least ≤ b.toNat ∧ b.toNat ≤ o.most ∧ o.owed ≤ 1 ∧
      Char.ofNat (64 * o.bits + (b.toNat - 0x80)) = c := by
  simp only [Open.next, Bool.or_eq_true, decide_eq_true_eq]
  split_ifs with hb ho
  · simp only [false_iff]
    omega
  · simp only [Next.done.injEq]
    constructor
    · exact fun h => ⟨by omega, by omega, ho, h⟩
    · exact fun h => h.2.2.2
  · simp only [false_iff]
    omega

/-- When a byte goes on with a character that is not finished by it. -/
theorem Open.next_eq_more_iff {o p : Open} {b : UInt8} :
    o.next b = .more p ↔ o.least ≤ b.toNat ∧ b.toNat ≤ o.most ∧ 1 < o.owed ∧
      ⟨64 * o.bits + (b.toNat - 0x80), o.seen + 1, o.owed - 1, 0x80, 0xBF⟩ = p := by
  simp only [Open.next, Bool.or_eq_true, decide_eq_true_eq]
  split_ifs with hb ho
  · simp only [false_iff]
    omega
  · simp only [false_iff]
    omega
  · simp only [Next.more.injEq]
    constructor
    · exact fun h => ⟨by omega, by omega, by omega, h⟩
    · exact fun h => h.2.2.2

section
variable {b : UInt8} {k : Nat}

/-- Bytes of ASCII are characters. -/
theorem lead_of_whole (h : b.toNat < 0x80) : lead b = .whole (Char.ofNat b.toNat) := if_pos h

/-- Bytes that never begin a character. -/
theorem lead_of_wrong (h : 0x80 ≤ b.toNat ∧ b.toNat < 0xC2 ∨ 0xF5 ≤ b.toNat) : lead b = .wrong := by
  simp only [lead]
  rcases h with h | h
  · rw [if_neg (by omega), if_pos h.2]
  · rw [if_neg (by omega), if_neg (by omega), if_neg (by omega), if_neg (by omega),
      if_neg (by omega)]

/-- The first of two bytes. -/
theorem lead_of_two (hb : b.toNat = k + 0xC0) (hk : 2 ≤ k) (hk' : k < 32) :
    lead b = .opens ⟨k, 1, 1, 0x80, 0xBF⟩ := by
  simp only [lead, hb, Nat.add_sub_cancel]
  rw [if_neg (by omega), if_neg (by omega), if_pos (by omega)]

/-- The first of three bytes; not every byte may follow. -/
theorem lead_of_three (hb : b.toNat = k + 0xE0) (hk : k < 16) :
    lead b = .opens ⟨k, 1, 2, if k = 0 then 0xA0 else 0x80, if k = 0xD then 0x9F else 0xBF⟩ := by
  have hleast : (k + 0xE0 = 0xE0) = (k = 0) := propext (by omega)
  have hmost : (k + 0xE0 = 0xED) = (k = 0xD) := propext (by omega)
  simp only [lead, hb, Nat.add_sub_cancel, hleast, hmost]
  rw [if_neg (by omega), if_neg (by omega), if_neg (by omega), if_pos (by omega)]

/-- The first of four bytes; not every byte may follow. -/
theorem lead_of_four (hb : b.toNat = k + 0xF0) (hk : k < 5) :
    lead b = .opens ⟨k, 1, 3, if k = 0 then 0x90 else 0x80, if k = 4 then 0x8F else 0xBF⟩ := by
  have hleast : (k + 0xF0 = 0xF0) = (k = 0) := propext (by omega)
  have hmost : (k + 0xF0 = 0xF4) = (k = 4) := propext (by omega)
  simp only [lead, hb, Nat.add_sub_cancel, hleast, hmost]
  rw [if_neg (by omega), if_neg (by omega), if_neg (by omega), if_neg (by omega),
    if_pos (by omega)]

end

/-- **What a byte between two characters is:** the whole of a character, the first of two, three
or four bytes, or none of these. -/
theorem lead_cases (b : UInt8) :
    b.toNat < 0x80 ∨ (0x80 ≤ b.toNat ∧ b.toNat < 0xC2 ∨ 0xF5 ≤ b.toNat) ∨
      (∃ k, b.toNat = k + 0xC0 ∧ 2 ≤ k ∧ k < 32) ∨ (∃ k, b.toNat = k + 0xE0 ∧ k < 16) ∨
      ∃ k, b.toNat = k + 0xF0 ∧ k < 5 := by
  rcases Nat.lt_or_ge b.toNat 0x80 with h | h₁
  · exact .inl h
  rcases Nat.lt_or_ge b.toNat 0xC2 with h | h₂
  · exact .inr (.inl (.inl ⟨h₁, h⟩))
  rcases Nat.lt_or_ge b.toNat 0xE0 with h | h₃
  · exact .inr (.inr (.inl ⟨b.toNat - 0xC0, by omega, by omega, by omega⟩))
  rcases Nat.lt_or_ge b.toNat 0xF0 with h | h₄
  · exact .inr (.inr (.inr (.inl ⟨b.toNat - 0xE0, by omega, by omega⟩)))
  rcases Nat.lt_or_ge b.toNat 0xF5 with h | h₅
  · exact .inr (.inr (.inr (.inr ⟨b.toNat - 0xF0, by omega, by omega⟩)))
  · exact .inr (.inl (.inr h₅))

/-- The three ways to open a character. -/
theorem opens_cases {b : UInt8} {o : Open} (h : lead b = .opens o) :
    (∃ k, b.toNat = k + 0xC0 ∧ 2 ≤ k ∧ k < 32 ∧ o = ⟨k, 1, 1, 0x80, 0xBF⟩) ∨
      (∃ k, b.toNat = k + 0xE0 ∧ k < 16 ∧
        o = ⟨k, 1, 2, if k = 0 then 0xA0 else 0x80, if k = 0xD then 0x9F else 0xBF⟩) ∨
      ∃ k, b.toNat = k + 0xF0 ∧ k < 5 ∧
        o = ⟨k, 1, 3, if k = 0 then 0x90 else 0x80, if k = 4 then 0x8F else 0xBF⟩ := by
  rcases lead_cases b with hb | hb | ⟨k, hb, hk, hk'⟩ | ⟨k, hb, hk⟩ | ⟨k, hb, hk⟩
  · rw [lead_of_whole hb] at h
    cases h
  · rw [lead_of_wrong hb] at h
    cases h
  · rw [lead_of_two hb hk hk', Lead.opens.injEq] at h
    exact .inl ⟨k, hb, hk, hk', h.symm⟩
  · rw [lead_of_three hb hk, Lead.opens.injEq] at h
    exact .inr (.inl ⟨k, hb, hk, h.symm⟩)
  · rw [lead_of_four hb hk, Lead.opens.injEq] at h
    exact .inr (.inr ⟨k, hb, hk, h.symm⟩)

/-! ### Single characters -/

section
variable {bits seen owed least most : Nat} {bs : List UInt8} {c : Char}

/-- One byte completes a character that is owed one. -/
theorem Open.completes_one_iff :
    Completes ⟨bits, seen, 1, least, most⟩ bs c ↔
      ∃ b, bs = [b] ∧ least ≤ b.toNat ∧ b.toNat ≤ most ∧
        Char.ofNat (64 * bits + (b.toNat - 0x80)) = c := by
  constructor
  · rintro (⟨h⟩ | ⟨h, hp⟩)
    · obtain ⟨hleast, hmost, -, hc⟩ := next_eq_done_iff.1 h
      exact ⟨_, rfl, hleast, hmost, hc⟩
    · exact absurd (next_eq_more_iff.1 h).2.2.1 (Nat.lt_irrefl 1)
  · rintro ⟨b, rfl, hleast, hmost, hc⟩
    exact .done (next_eq_done_iff.2 ⟨hleast, hmost, Nat.le_refl 1, hc⟩)

/-- A byte brings a character that is owed more nearer to its end. -/
theorem Open.completes_succ_iff :
    Completes ⟨bits, seen, owed + 2, least, most⟩ bs c ↔
      ∃ b rest, bs = b :: rest ∧ least ≤ b.toNat ∧ b.toNat ≤ most ∧
        Completes ⟨64 * bits + (b.toNat - 0x80), seen + 1, owed + 1, 0x80, 0xBF⟩ rest c := by
  constructor
  · rintro (⟨h⟩ | ⟨h, hp⟩)
    · have howed := (next_eq_done_iff.1 h).2.2.1
      simp only at howed
      omega
    · obtain ⟨hleast, hmost, -, rfl⟩ := next_eq_more_iff.1 h
      exact ⟨_, _, rfl, hleast, hmost, hp⟩
  · rintro ⟨b, rest, rfl, hleast, hmost, hp⟩
    exact .more (next_eq_more_iff.2 ⟨hleast, hmost, by simp only; omega, rfl⟩) hp

end

/-- A byte has the number that it is made of. -/
theorem toNat_ofNat_of_lt {n : Nat} (h : n < 256) : (UInt8.ofNat n).toNat = n :=
  UInt8.toNat_ofNat_of_lt' h

/-- **The first byte of a character is the whole of it or opens it,** and the bytes after that
complete it. -/
theorem exists_lead (c : Char) :
    (∃ b, String.utf8EncodeChar c = [b] ∧ lead b = .whole c) ∨
      ∃ b bs o, String.utf8EncodeChar c = b :: bs ∧ lead b = .opens o ∧ o.Completes bs c := by
  have hvalid : c.toNat < 0xD800 ∨ 0xDFFF < c.toNat ∧ c.toNat < 0x110000 := c.valid
  have hc : Char.ofNat c.toNat = c := Char.ofNat_toNat c
  have hval : c.val.toNat = c.toNat := rfl
  unfold String.utf8EncodeChar
  simp only [hval]
  generalize c.toNat = n at hvalid hc
  -- the last byte of an encoding holds the lowest six bits, and those before it the others
  have hlast : ∀ {m seen : Nat}, 64 * m + n % 64 = n →
      Open.Completes ⟨m, seen, 1, 0x80, 0xBF⟩ [UInt8.ofNat (n % 64 + 128)] c := by
    intro m seen hm
    have hb := toNat_ofNat_of_lt (n := n % 64 + 128) (by omega)
    refine Open.completes_one_iff.2 ⟨_, rfl, by omega, by omega, ?_⟩
    rw [hb, Nat.add_sub_cancel, hm, hc]
  split_ifs with h₁ h₂ h₃
  · have hb := toNat_ofNat_of_lt (n := n) (by omega)
    exact .inl ⟨_, rfl, by rw [lead_of_whole (by omega), hb, hc]⟩
  · have hb := toNat_ofNat_of_lt (n := n / 64 % 32 + 192) (by omega)
    exact .inr ⟨_, _, _, rfl, lead_of_two hb (by omega) (by omega), hlast (by omega)⟩
  · have hb := toNat_ofNat_of_lt (n := n / 4096 % 16 + 224) (by omega)
    have hb' := toNat_ofNat_of_lt (n := n / 64 % 64 + 128) (by omega)
    refine .inr ⟨_, _, _, rfl, lead_of_three hb (by omega), ?_⟩
    refine Open.completes_succ_iff.2 ⟨_, _, rfl, ?_, ?_, hlast (by omega)⟩
    · split_ifs <;> omega
    · split_ifs <;> omega
  · have hb := toNat_ofNat_of_lt (n := n / 262144 % 8 + 240) (by omega)
    have hb' := toNat_ofNat_of_lt (n := n / 4096 % 64 + 128) (by omega)
    have hb'' := toNat_ofNat_of_lt (n := n / 64 % 64 + 128) (by omega)
    refine .inr ⟨_, _, _, rfl, lead_of_four hb (by omega), ?_⟩
    refine Open.completes_succ_iff.2 ⟨_, _, rfl, ?_, ?_, ?_⟩
    · split_ifs <;> omega
    · split_ifs <;> omega
    · exact Open.completes_succ_iff.2 ⟨_, _, rfl, by omega, by omega, hlast (by omega)⟩

/-- A character has the number that it is made of. -/
theorem toNat_charOfNat {n : Nat} (h : n.isValidChar) : (Char.ofNat n).toNat = n := by
  rw [Char.ofNat, dif_pos h]
  rfl

/-- The bytes of a character by its number. -/
theorem utf8EncodeChar_ofNat {n : Nat} (h : n.isValidChar) :
    String.utf8EncodeChar (Char.ofNat n) =
      if n ≤ 0x7F then [UInt8.ofNat n]
      else if n ≤ 0x7FF then [UInt8.ofNat (n / 64 % 32 + 192), UInt8.ofNat (n % 64 + 128)]
      else if n ≤ 0xFFFF then
        [UInt8.ofNat (n / 4096 % 16 + 224), UInt8.ofNat (n / 64 % 64 + 128),
          UInt8.ofNat (n % 64 + 128)]
      else
        [UInt8.ofNat (n / 262144 % 8 + 240), UInt8.ofNat (n / 4096 % 64 + 128),
          UInt8.ofNat (n / 64 % 64 + 128), UInt8.ofNat (n % 64 + 128)] := by
  have hval : (Char.ofNat n).val.toNat = n := toNat_charOfNat h
  simp only [String.utf8EncodeChar, hval]

/-- An ASCII character is one byte. -/
theorem utf8EncodeChar_of_ascii {c : Char} (h : c.toNat < 0x80) :
    String.utf8EncodeChar c = [UInt8.ofNat c.toNat] := by
  have hc := utf8EncodeChar_ofNat (n := c.toNat) (.inl (by omega))
  rwa [Char.ofNat_toNat, if_pos (by omega)] at hc

/-- A character of one byte. -/
theorem utf8EncodeChar_of_whole {b : UInt8} {c : Char} (h : lead b = .whole c) :
    String.utf8EncodeChar c = [b] := by
  rcases lead_cases b with hb | hb | ⟨k, hb, hk, hk'⟩ | ⟨k, hb, hk⟩ | ⟨k, hb, hk⟩
  · rw [lead_of_whole hb, Lead.whole.injEq] at h
    rw [← h, utf8EncodeChar_ofNat (.inl (by omega)), if_pos (by omega), UInt8.ofNat_toNat]
  · rw [lead_of_wrong hb] at h
    cases h
  · rw [lead_of_two hb hk hk'] at h
    cases h
  · rw [lead_of_three hb hk] at h
    cases h
  · rw [lead_of_four hb hk] at h
    cases h

/-- A byte is made of its number. -/
theorem ofNat_eq_of_toNat {b : UInt8} {n : Nat} (h : b.toNat = n) : UInt8.ofNat n = b := by
  rw [← h, UInt8.ofNat_toNat]

/-- **A character is encoded by the bytes that complete it.** -/
theorem utf8EncodeChar_of_completes {b : UInt8} {o : Open} {bs : List UInt8} {c : Char}
    (h : lead b = .opens o) (hbs : o.Completes bs c) : String.utf8EncodeChar c = b :: bs := by
  rcases opens_cases h with ⟨k, hb, hk, hk', rfl⟩ | ⟨k, hb, hk, rfl⟩ | ⟨k, hb, hk, rfl⟩
  · obtain ⟨x, rfl, hx, hx', rfl⟩ := Open.completes_one_iff.1 hbs
    rw [utf8EncodeChar_ofNat (.inl (by omega)), if_neg (by omega), if_pos (by omega),
      ofNat_eq_of_toNat (b := b) (by omega), ofNat_eq_of_toNat (b := x) (by omega)]
  · obtain ⟨x, rest, rfl, hx, hx', hrest⟩ := Open.completes_succ_iff.1 hbs
    obtain ⟨y, rfl, hy, hy', rfl⟩ := Open.completes_one_iff.1 hrest
    -- the bounds of the second byte leave out overlong forms and surrogates
    have hlong : 32 ≤ 64 * k + (x.toNat - 0x80) := by
      split_ifs at hx <;> omega
    have hvalid : 64 * k + (x.toNat - 0x80) < 0x360 ∨ 0x380 ≤ 64 * k + (x.toNat - 0x80) := by
      split_ifs at hx' <;> omega
    have hleast : 0x80 ≤ x.toNat := by
      split_ifs at hx <;> omega
    have hmost : x.toNat ≤ 0xBF := by
      split_ifs at hx' <;> omega
    rw [utf8EncodeChar_ofNat (by unfold Nat.isValidChar; omega), if_neg (by omega),
      if_neg (by omega), if_pos (by omega), ofNat_eq_of_toNat (b := b) (by omega),
      ofNat_eq_of_toNat (b := x) (by omega), ofNat_eq_of_toNat (b := y) (by omega)]
  · obtain ⟨x, rest, rfl, hx, hx', hrest⟩ := Open.completes_succ_iff.1 hbs
    obtain ⟨y, rest, rfl, hy, hy', hrest⟩ := Open.completes_succ_iff.1 hrest
    obtain ⟨z, rfl, hz, hz', rfl⟩ := Open.completes_one_iff.1 hrest
    -- here they leave out overlong forms and what is past the last code point
    have hlong : 16 ≤ 64 * k + (x.toNat - 0x80) := by
      split_ifs at hx <;> omega
    have hvalid : 64 * k + (x.toNat - 0x80) < 0x110 := by
      split_ifs at hx' <;> omega
    have hleast : 0x80 ≤ x.toNat := by
      split_ifs at hx <;> omega
    have hmost : x.toNat ≤ 0xBF := by
      split_ifs at hx' <;> omega
    rw [utf8EncodeChar_ofNat (by unfold Nat.isValidChar; omega), if_neg (by omega),
      if_neg (by omega), if_neg (by omega), ofNat_eq_of_toNat (b := b) (by omega),
      ofNat_eq_of_toNat (b := x) (by omega), ofNat_eq_of_toNat (b := y) (by omega),
      ofNat_eq_of_toNat (b := z) (by omega)]

/-! ### Texts -/

/-- An ASCII text has a byte for each character. -/
theorem encode_of_ascii {cs : List Char} (h : ∀ c ∈ cs, c.toNat < 0x80) :
    encode cs = cs.map fun c => UInt8.ofNat c.toNat := by
  induction cs with
  | nil => rfl
  | cons c cs ih =>
    have hc := utf8EncodeChar_of_ascii (h c List.mem_cons_self)
    rw [encode_cons, hc, ih fun x hx => h x (List.mem_cons_of_mem c hx)]
    rfl

/-- Bytes of ASCII characters are an ASCII text. -/
theorem encode_map_ofNat {bytes : List UInt8} (h : ∀ b ∈ bytes, b.toNat < 0x80) :
    encode (bytes.map fun b => Char.ofNat b.toNat) = bytes := by
  induction bytes with
  | nil => rfl
  | cons b bytes ih =>
    have hb := utf8EncodeChar_of_whole (lead_of_whole (h b List.mem_cons_self))
    rw [List.map_cons, encode_cons, hb, ih fun x hx => h x (List.mem_cons_of_mem b hx)]
    rfl

/-- No byte of a character beyond ASCII is one of ASCII. -/
theorem le_of_mem_utf8EncodeChar {c : Char} (h : 0x80 ≤ c.toNat) {b : UInt8}
    (hb : b ∈ String.utf8EncodeChar c) : 0x80 ≤ b.toNat := by
  have hc := utf8EncodeChar_ofNat (n := c.toNat) c.valid
  have hhigh : ∀ {n : Nat}, 0x80 ≤ n → n < 256 → 0x80 ≤ (UInt8.ofNat n).toNat := fun hle hlt => by
    rwa [toNat_ofNat_of_lt hlt]
  rw [Char.ofNat_toNat] at hc
  rw [hc] at hb
  split_ifs at hb
  · omega
  all_goals
    simp only [List.mem_cons, List.not_mem_nil, or_false] at hb
  · rcases hb with rfl | rfl <;> exact hhigh (by omega) (by omega)
  · rcases hb with rfl | rfl | rfl <;> exact hhigh (by omega) (by omega)
  · rcases hb with rfl | rfl | rfl | rfl <;> exact hhigh (by omega) (by omega)

section
variable {part cs : List Char} (h : ∀ c ∈ part, c.toNat < 0x80)
include h

/-- An ASCII text is at the beginning of a text if it is at the beginning of its bytes. -/
theorem prefix_of_encode (hp : encode part <+: encode cs) : part <+: cs := by
  induction part generalizing cs with
  | nil => exact List.nil_prefix
  | cons c part ih =>
    obtain ⟨hc, hpart⟩ := List.forall_mem_cons.1 h
    have hbyte := toNat_ofNat_of_lt (n := c.toNat) (by omega)
    rw [encode_cons, utf8EncodeChar_of_ascii hc, List.singleton_append] at hp
    cases cs with
    | nil => exact absurd (List.prefix_nil.1 hp) (List.cons_ne_nil _ _)
    | cons d cs =>
      rw [encode_cons] at hp
      by_cases hd : d.toNat < 0x80
      · rw [utf8EncodeChar_of_ascii hd, List.singleton_append] at hp
        obtain ⟨hsame, hrest⟩ := List.cons_prefix_cons.1 hp
        have hnumber := congrArg UInt8.toNat hsame
        rw [hbyte, toNat_ofNat_of_lt (by omega)] at hnumber
        exact List.cons_prefix_cons.2 ⟨Char.toNat_inj.1 hnumber, ih hpart hrest⟩
      · -- the first byte of the text is beyond ASCII
        obtain ⟨b, bs, hbs⟩ := List.exists_cons_of_ne_nil (String.utf8EncodeChar_ne_nil (c := d))
        rw [hbs, List.cons_append] at hp
        have hhigh := le_of_mem_utf8EncodeChar (Nat.le_of_not_lt hd) (hbs ▸ List.mem_cons_self)
        rw [← (List.cons_prefix_cons.1 hp).1, hbyte] at hhigh
        omega

/-- The bytes of an ASCII text are of ASCII. -/
theorem lt_of_mem_encode {b : UInt8} (hb : b ∈ encode part) : b.toNat < 0x80 := by
  rw [encode_of_ascii h] at hb
  obtain ⟨c, hc, rfl⟩ := List.mem_map.1 hb
  have hlt := h c hc
  rwa [toNat_ofNat_of_lt (by omega)]

/-- The bytes of an ASCII text do not begin inside a character. -/
theorem infix_encode_cons (hne : encode part ≠ []) {d : Char}
    (hpart : encode part <:+: encode (d :: cs)) :
    part <+: d :: cs ∨ encode part <:+: encode cs := by
  by_cases hd : d.toNat < 0x80
  · have hbytes : encode (d :: cs) = UInt8.ofNat d.toNat :: encode cs := by
      rw [encode_cons, utf8EncodeChar_of_ascii hd, List.singleton_append]
    rw [hbytes] at hpart
    rcases List.infix_cons_iff.1 hpart with hp | hrest
    · exact .inl (prefix_of_encode h (hbytes ▸ hp))
    · exact .inr hrest
  · have hhigh : ∀ b ∈ encode part, b ∉ String.utf8EncodeChar d := fun b hb hmem =>
      absurd (lt_of_mem_encode h hb)
        (Nat.not_lt_of_le (le_of_mem_utf8EncodeChar (Nat.le_of_not_lt hd) hmem))
    rw [encode_cons] at hpart
    rcases List.infix_append_iff.1 hpart with hin | hrest | ⟨l, r, hlr, hl, hr⟩
    · obtain ⟨b, hb⟩ := List.exists_mem_of_ne_nil _ hne
      exact absurd (hin.subset hb) (hhigh b hb)
    · exact .inr hrest
    · -- the part before the next character is empty
      cases l with
      | nil =>
        rw [List.nil_append] at hlr
        exact .inr (hlr ▸ hr.isInfix)
      | cons x l =>
        have hx : x ∈ encode part := hlr ▸ List.mem_cons_self
        exact absurd (hl.subset List.mem_cons_self) (hhigh x hx)

/-- **An ASCII text is in a text if and only if its bytes are in the bytes of it.** -/
theorem infix_encode_iff (hne : part ≠ []) : encode part <:+: encode cs ↔ part <:+: cs := by
  have hbytes : encode part ≠ [] := by
    rw [encode_of_ascii h]
    exact fun hnil => hne (List.map_eq_nil_iff.1 hnil)
  constructor
  · intro hpart
    induction cs with
    | nil => exact absurd (List.infix_nil.1 hpart) hbytes
    | cons d cs ih =>
      rcases infix_encode_cons h hbytes hpart with hp | hrest
      · exact hp.isInfix
      · exact List.infix_cons_iff.2 (.inr (ih hrest))
  · rintro ⟨before, after, rfl⟩
    rw [encode_append, encode_append]
    exact List.infix_append _ _ _

end

/-- An open character is read on until it is complete. -/
theorem decodeFrom_of_completes {o : Open} {bs : List UInt8} {c : Char} (h : o.Completes bs c)
    (index : Nat) (rest : List UInt8) :
    decodeFrom index (some o) (bs ++ rest) =
      (decodeFrom (index + o.seen + bs.length) none rest).map (c :: ·) := by
  induction h with
  | done h =>
    rw [List.singleton_append, decodeFrom, h]
    rfl
  | @more o p b bs c h _ ih =>
    have hseen : p.seen = o.seen + 1 := by
      obtain ⟨-, -, -, rfl⟩ := Open.next_eq_more_iff.1 h
      rfl
    have hindex : index + p.seen + bs.length = index + o.seen + (b :: bs).length := by
      rw [List.length_cons]
      omega
    rw [List.cons_append, decodeFrom, h]
    simp only
    rw [ih, hindex]

/-- **The bytes of a character are decoded to it,** and decoding goes on after them. -/
theorem decodeFrom_utf8EncodeChar (index : Nat) (c : Char) (rest : List UInt8) :
    decodeFrom index none (String.utf8EncodeChar c ++ rest) =
      (decodeFrom (index + (String.utf8EncodeChar c).length) none rest).map (c :: ·) := by
  rcases exists_lead c with ⟨b, hc, hb⟩ | ⟨b, bs, o, hc, hb, hbs⟩
  · rw [hc, List.singleton_append, decodeFrom, hb]
    rfl
  · have hseen : o.seen = 1 := by
      rcases opens_cases hb with ⟨k, -, -, -, rfl⟩ | ⟨k, -, -, rfl⟩ | ⟨k, -, -, rfl⟩ <;> rfl
    rw [hc, List.cons_append, decodeFrom, hb]
    simp only
    rw [decodeFrom_of_completes hbs, hseen, List.length_cons, Nat.add_assoc, Nat.add_comm 1]

/-- **What is written is read back.** -/
theorem decode_encode (cs : List Char) : decode (encode cs) = .ok cs := by
  have hfrom : ∀ index, decodeFrom index none (encode cs) = .ok cs := by
    induction cs with
    | nil => exact fun _ => rfl
    | cons c cs ih =>
      intro index
      rw [encode_cons, decodeFrom_utf8EncodeChar, ih]
      rfl
  exact hfrom 0

/-- What has been read was written so, also if a part of it had been read before. -/
theorem encode_of_decodeFrom {bytes : List UInt8} :
    ∀ {index : Nat} {state : Option Open} {cs : List Char},
      decodeFrom index state bytes = .ok cs →
        match state with
        | none => encode cs = bytes
        | some o => ∃ c bs ds, cs = c :: ds ∧ o.Completes bs c ∧ bytes = bs ++ encode ds := by
  induction bytes with
  | nil =>
    intro index state cs h
    cases state with
    | none =>
      cases h
      rfl
    | some o => cases h
  | cons b bytes ih =>
    intro index state cs h
    cases state with
    | none =>
      rw [decodeFrom] at h
      split at h
      · next c hb =>
        obtain ⟨ds, hds, rfl⟩ := map_eq_ok_iff.1 h
        rw [encode_cons, utf8EncodeChar_of_whole hb, ih hds, List.singleton_append]
      · next o hb =>
        obtain ⟨c, bs, ds, rfl, hbs, rfl⟩ := ih h
        rw [encode_cons, utf8EncodeChar_of_completes hb hbs, List.cons_append]
      · cases h
    | some o =>
      rw [decodeFrom] at h
      split at h
      · next c hb =>
        obtain ⟨ds, hds, rfl⟩ := map_eq_ok_iff.1 h
        exact ⟨c, [b], ds, rfl, .done hb, by rw [ih hds, List.singleton_append]⟩
      · next p hb =>
        obtain ⟨c, bs, ds, rfl, hbs, rfl⟩ := ih h
        exact ⟨c, b :: bs, ds, rfl, .more hb hbs, (List.cons_append ..).symm⟩
      · cases h

/-- **Bytes are read as a text if and only if they encode it.** -/
theorem decode_eq_ok_iff {bytes : List UInt8} {cs : List Char} :
    decode bytes = .ok cs ↔ encode cs = bytes := by
  constructor
  · exact @encode_of_decodeFrom bytes 0 none cs
  · rintro rfl
    exact decode_encode cs

/-- Different texts have different bytes. -/
theorem encode_injective {cs ds : List Char} (h : encode cs = encode ds) : cs = ds := by
  have hcs := decode_encode cs
  rw [h, decode_encode] at hcs
  exact (Except.ok.inj hcs).symm

end Utf8
end Text
end Remedy
