/-
# The text that is shown of an output

Of a text that is too long the end is shown, from a place where a character begins.  A character
has one byte that begins it and up to three that go on with it, so such a place is found within
three steps (`boundaryFrom_spec`), and the text can be cut there.  What is shown is the longest end
of the text that is short enough (`tail_longest`).
-/

import Remedy.Execution.Output
import Remedy.Proofs.Text.Faults
import Remedy.Proofs.Text.Trimming

namespace Remedy
namespace Execution
namespace Output

open Text (isBlank)
open Text.Utf8 (encode Lossy)

variable {cs before after : List Char} {start : Nat}

/-! ### The bytes of a character -/

/-- **A character has one byte that begins it,** and all others go on with it. -/
theorem exists_cons_utf8EncodeChar (c : Char) :
    ∃ b bs, String.utf8EncodeChar c = b :: bs ∧ continues b = false ∧
      ∀ x ∈ bs, continues x = true := by
  have hc := Text.Utf8.utf8EncodeChar_ofNat (n := c.toNat) c.valid
  have hvalid : c.toNat < 0x110000 := by
    have hvalid : c.toNat < 0xD800 ∨ 0xDFFF < c.toNat ∧ c.toNat < 0x110000 := c.valid
    omega
  have hfirst : ∀ {n : Nat}, n < 256 → n < 0x80 ∨ 0xC0 ≤ n → continues (UInt8.ofNat n) = false := by
    intro n hn hrange
    simp only [continues, Text.Utf8.toNat_ofNat_of_lt hn, Bool.and_eq_false_iff,
      decide_eq_false_iff_not]
    omega
  have hlater : ∀ {n : Nat}, continues (UInt8.ofNat (n % 64 + 128)) = true := by
    intro n
    have hn : n % 64 + 128 < 256 := by omega
    simp only [continues, Text.Utf8.toNat_ofNat_of_lt hn, Bool.and_eq_true, decide_eq_true_eq]
    omega
  rw [Char.ofNat_toNat] at hc
  split_ifs at hc
  · exact ⟨_, _, hc, hfirst (by omega) (by omega), fun x hx => absurd hx List.not_mem_nil⟩
  all_goals
    refine ⟨_, _, hc, hfirst (by omega) (by omega), ?_⟩
    simp only [List.forall_mem_cons, hlater, true_and]
    exact fun x hx => absurd hx List.not_mem_nil

/-- No text begins within a character. -/
theorem takeWhile_continues_encode (cs : List Char) : (encode cs).takeWhile continues = [] := by
  cases cs with
  | nil => rfl
  | cons c cs =>
    obtain ⟨b, bs, hc, hb, -⟩ := exists_cons_utf8EncodeChar c
    rw [Text.Utf8.encode_cons, hc, List.cons_append,
      List.takeWhile_cons_of_neg (by rw [hb]; exact Bool.false_ne_true)]

/-! ### Places where a character begins -/

/-- Whether a character of a text begins after so many bytes, or the text ends there. -/
def IsBoundary (cs : List Char) (i : Nat) : Prop :=
  ∃ before after, cs = before ++ after ∧ (encode before).length = i

/-- A text begins where a character does. -/
theorem boundaryFrom_zero (cs : List Char) : boundaryFrom (encode cs) 0 = 0 := by
  rw [boundaryFrom, List.drop_zero, takeWhile_continues_encode]
  rfl

/-- Within a character the next place is the end of it. -/
theorem boundaryFrom_within {c : Char} (h : 0 < start)
    (hlt : start < (String.utf8EncodeChar c).length) :
    boundaryFrom (encode (c :: cs)) start = (String.utf8EncodeChar c).length := by
  obtain ⟨b, bs, hc, -, hbs⟩ := exists_cons_utf8EncodeChar c
  obtain ⟨i, rfl⟩ := Nat.exists_eq_add_of_lt h
  rw [Nat.zero_add] at hlt ⊢
  have hcontinues : ∀ x ∈ bs.drop i, continues x = true := fun x hx =>
    hbs x (List.mem_of_mem_drop hx)
  rw [hc, List.length_cons] at hlt
  rw [boundaryFrom, Text.Utf8.encode_cons, hc, List.cons_append, List.drop_succ_cons,
    List.drop_append_of_le_length (by omega), List.takeWhile_append_of_pos hcontinues,
    takeWhile_continues_encode, List.append_nil, List.length_drop, List.length_cons]
  omega

/-- Past a character it is looked for in the rest. -/
theorem boundaryFrom_past {c : Char} (start : Nat) :
    boundaryFrom (encode (c :: cs)) ((String.utf8EncodeChar c).length + start) =
      (String.utf8EncodeChar c).length + boundaryFrom (encode cs) start := by
  rw [boundaryFrom, Text.Utf8.encode_cons, List.drop_append, List.drop_of_length_le (by omega),
    List.nil_append, Nat.add_sub_cancel_left, boundaryFrom, Nat.add_assoc]

/-- **The next place where a character begins** is found, three bytes further on at most, and there
is none before it. -/
theorem boundaryFrom_spec (h : start ≤ (encode cs).length) :
    IsBoundary cs (boundaryFrom (encode cs) start) ∧ start ≤ boundaryFrom (encode cs) start ∧
      boundaryFrom (encode cs) start ≤ start + 3 ∧
      ∀ i, IsBoundary cs i → start ≤ i → boundaryFrom (encode cs) start ≤ i := by
  induction cs generalizing start with
  | nil =>
    obtain rfl : start = 0 := Nat.le_zero.1 h
    rw [boundaryFrom_zero]
    exact ⟨⟨[], [], rfl, rfl⟩, Nat.le_refl 0, Nat.zero_le _, fun i _ _ => Nat.zero_le i⟩
  | cons c cs ih =>
    have hsize := c.utf8Size_le_four
    rw [← String.length_utf8EncodeChar] at hsize
    rcases Nat.eq_zero_or_pos start with rfl | hpos
    · rw [boundaryFrom_zero]
      exact ⟨⟨[], _, rfl, rfl⟩, Nat.le_refl 0, Nat.zero_le _, fun i _ _ => Nat.zero_le i⟩
    rcases Nat.lt_or_ge start (String.utf8EncodeChar c).length with hlt | hle
    · rw [boundaryFrom_within hpos hlt]
      refine ⟨⟨[c], cs, rfl, by simp⟩, Nat.le_of_lt hlt, by omega, ?_⟩
      rintro i ⟨before, after, hcs, rfl⟩ hi
      cases before with
      | nil =>
        rw [Text.Utf8.encode_nil, List.length_nil] at hi
        omega
      | cons d before =>
        obtain ⟨rfl, -⟩ := List.cons.inj hcs
        rw [Text.Utf8.encode_cons, List.length_append]
        exact Nat.le_add_right _ _
    · obtain ⟨i, rfl⟩ := Nat.exists_eq_add_of_le hle
      rw [Text.Utf8.encode_cons, List.length_append] at h
      obtain ⟨⟨before, after, rfl, hbefore⟩, hge, hnear, hfirst⟩ := ih (Nat.le_of_add_le_add_left h)
      rw [boundaryFrom_past]
      refine ⟨⟨c :: before, after, rfl, ?_⟩, by omega, by omega, ?_⟩
      · rw [Text.Utf8.encode_cons, List.length_append, hbefore]
      · rintro j ⟨before', after', hcs, rfl⟩ hj
        cases before' with
        | nil =>
          rw [Text.Utf8.encode_nil, List.length_nil] at hj
          omega
        | cons d before' =>
          obtain ⟨rfl, hrest⟩ := List.cons.inj hcs
          rw [Text.Utf8.encode_cons, List.length_append] at hj ⊢
          have hj' := hfirst _ ⟨before', after', hrest, rfl⟩ (by omega)
          omega

/-- **A text can be cut where a character begins.** -/
theorem sliceFrom_append (before after : List Char) :
    sliceFrom (encode before).length (before ++ after) = some after := by
  induction before with
  | nil => cases after <;> rfl
  | cons c before ih =>
    have hpos := c.utf8Size_pos
    rw [Text.Utf8.encode_cons, List.length_append, String.length_utf8EncodeChar, List.cons_append]
    obtain ⟨n, hn⟩ : ∃ n, c.utf8Size + (encode before).length = n + 1 :=
      ⟨c.utf8Size + (encode before).length - 1, by omega⟩
    rw [hn, sliceFrom, if_pos (by omega), ← hn, Nat.add_sub_cancel_left, ih]

/-! ### What is shown -/

/-- A short output is shown whole. -/
theorem tail_of_le {bytes : List UInt8}
    (h : (encode (Text.trimEnd (Text.Utf8.decodeLossy bytes))).length ≤ shown) :
    tail bytes = String.ofList (Text.trimEnd (Text.Utf8.decodeLossy bytes)) := by
  rw [tail]
  simp only [if_pos h]

/-- Of a long output what follows a boundary is shown, after a mark. -/
theorem tail_of_slice {bytes : List UInt8} {t : List Char}
    (ht : Text.trimEnd (Text.Utf8.decodeLossy bytes) = t) (hlt : shown < (encode t).length)
    (hslice : sliceFrom (boundaryFrom (encode t) ((encode t).length - shown)) t = some after) :
    tail bytes = "..." ++ String.ofList after := by
  rw [tail]
  simp only [ht, if_neg (Nat.not_le_of_lt hlt), hslice, Option.getD_some, String.ofList_append]

/-- An end of a text that begins where another does, or after that, is an end of the other. -/
theorem suffix_of_length_le {other : List Char} (h : other <:+ before ++ after)
    (hle : (encode other).length ≤ (encode after).length) : other <:+ after := by
  rcases List.suffix_or_suffix_of_suffix h (List.suffix_append before after) with hother | hafter
  · exact hother
  · obtain ⟨more, rfl⟩ := hafter
    cases more with
    | nil => exact List.suffix_refl _
    | cons c more =>
      have hpos := c.utf8Size_pos
      rw [List.cons_append, Text.Utf8.encode_cons, Text.Utf8.encode_append, List.length_append,
        List.length_append, String.length_utf8EncodeChar] at hle
      omega

/-- **The end of an output that is shown.**  Let the output be read as a text with blanks after it.
If the text has at most 2048 bytes, it is shown.  Otherwise three points are shown, and the longest
end of the text that has at most 2048 bytes; it has at least 2045.  To find it, one goes on from the
place 2048 bytes before the end, three bytes at most, to the next place where a character begins,
and there the text can be cut. -/
theorem tail_longest (bytes : List UInt8) :
    ∃ t gap, Lossy bytes (t ++ gap) ∧ (∀ c ∈ gap, isBlank c = true) ∧
      (∀ c ∈ t.getLast?, isBlank c = false) ∧
      ((encode t).length ≤ 2048 → tail bytes = String.ofList t) ∧
      (2048 < (encode t).length → ∃ before after, t = before ++ after ∧
        tail bytes = "..." ++ String.ofList after ∧
        2045 ≤ (encode after).length ∧ (encode after).length ≤ 2048 ∧
        (∀ other, other <:+ t → (encode other).length ≤ 2048 → other <:+ after) ∧
        let start := (encode t).length - 2048
        start ≤ boundaryFrom (encode t) start ∧ boundaryFrom (encode t) start ≤ start + 3 ∧
          boundaryFrom (encode t) start = (encode before).length ∧
          sliceFrom (boundaryFrom (encode t) start) t = some after) := by
  obtain ⟨gap, hgap, htext, hlast⟩ := Text.exists_trimEnd (Text.Utf8.decodeLossy bytes)
  generalize ht : Text.trimEnd (Text.Utf8.decodeLossy bytes) = t at htext hlast
  refine ⟨t, gap, Text.Utf8.lossy_iff.2 htext, hgap, hlast, fun hle => ?_, fun hlt => ?_⟩
  · subst ht
    exact tail_of_le hle
  · obtain ⟨⟨before, after, hcut, hbefore⟩, hge, hnear, hfirst⟩ :=
      boundaryFrom_spec (Nat.sub_le (encode t).length 2048)
    have hslice :
        sliceFrom (boundaryFrom (encode t) ((encode t).length - 2048)) t = some after := by
      rw [← hbefore, hcut]
      exact sliceFrom_append before after
    have hlength : (encode t).length = (encode before).length + (encode after).length := by
      rw [hcut, Text.Utf8.encode_append, List.length_append]
    refine ⟨before, after, hcut, tail_of_slice ht hlt hslice, by omega, by omega, ?_, hge, hnear,
      hbefore.symm, hslice⟩
    rintro other ⟨others, hothers⟩ hle
    -- where a shorter end begins there is a character, so it is not before the place that was found
    have hsum : (encode t).length = (encode others).length + (encode other).length := by
      rw [← hothers, Text.Utf8.encode_append, List.length_append]
    have hplace := hfirst _ ⟨others, other, hothers.symm, rfl⟩ (by omega)
    exact suffix_of_length_le ⟨others, hothers.trans hcut⟩ (by omega)

/-- A text of 2049 bytes, the second of which is within a character: it is cut after that. -/
theorem tail_longest_of_accents :
    let text := List.replicate 1024 'é' ++ ['x']
    2048 < (encode text).length ∧ ∃ before after, text = before ++ after ∧
      tail (encode text) = "..." ++ String.ofList after ∧ 2045 ≤ (encode after).length ∧
      boundaryFrom (encode text) ((encode text).length - 2048) = (encode before).length := by
  intro text
  have hlt : 2048 < (encode text).length := by decide +kernel
  obtain ⟨t, gap, hlossy, hgap, -, -, hlong⟩ := tail_longest (encode text)
  have htext : t ++ gap = text := hlossy.unique (Text.Utf8.lossy_encode text)
  have hnil : gap = [] := by
    cases hlast : gap.getLast? with
    | none => exact List.getLast?_eq_none_iff.1 hlast
    | some c =>
      have hend : text.getLast? = some c := by rw [← htext, List.getLast?_append, hlast]; rfl
      rw [List.getLast?_concat, Option.some.injEq] at hend
      have hblank := hgap c (List.mem_of_getLast? hlast)
      rw [← hend] at hblank
      exact absurd hblank (by decide)
  rw [hnil, List.append_nil] at htext
  subst htext
  obtain ⟨before, after, hcut, hshown, hleast, -, -, -, -, hplace, -⟩ := hlong hlt
  exact ⟨hlt, before, after, hcut, hshown, hleast, hplace⟩

end Output
end Execution
end Remedy
