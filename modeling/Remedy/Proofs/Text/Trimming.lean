/-
# Texts without blanks at their ends

`Trims` says what is left of a text without saying how the blanks at its two ends are found:
the text is what is left with blanks before and after it, and what is left begins and ends
with something else, or there is nothing but blanks.  There is one such rest, and `trim`
finds it (`trim_eq_iff`).
-/

import Mathlib.Data.List.DropRight
import Mathlib.Data.List.TakeWhile
import Remedy.Text.Pieces

namespace Remedy
namespace Text

/-- Whether a text begins and ends with something that is no blank. -/
structure IsTrimmed (cs : List Char) : Prop where
  nonempty : cs ≠ []
  first : ∀ c ∈ cs.head?, isBlank c = false
  last : ∀ c ∈ cs.getLast?, isBlank c = false

/-- A text without blanks is trimmed. -/
theorem IsTrimmed.of_forall {cs : List Char} (hne : cs ≠ [])
    (h : ∀ c ∈ cs, isBlank c = false) : IsTrimmed cs :=
  ⟨hne, fun c hc => h c (List.mem_of_mem_head? hc), fun c hc => h c (List.mem_of_mem_getLast? hc)⟩

/-- **What is left of a text** without the blanks at its ends. -/
inductive Trims : List Char → List Char → Prop where
  | blanks {gap : List Char} (hgap : ∀ c ∈ gap, isBlank c = true) : Trims gap []
  | rest {before cs after : List Char} (hbefore : ∀ c ∈ before, isBlank c = true)
      (hcs : IsTrimmed cs) (hafter : ∀ c ∈ after, isBlank c = true) :
      Trims (before ++ cs ++ after) cs

variable {cs ds gap : List Char}

/-- Blanks before a text are trimmed off. -/
theorem trimStart_append_of_blanks (hgap : ∀ c ∈ gap, isBlank c = true) (cs : List Char) :
    trimStart (gap ++ cs) = trimStart cs :=
  List.dropWhile_append_of_pos hgap

/-- A text that does not begin with a blank loses nothing at its beginning. -/
theorem trimStart_of_head (h : ∀ c ∈ cs.head?, isBlank c = false) : trimStart cs = cs := by
  cases cs with
  | nil => rfl
  | cons c cs =>
    have hc : isBlank c = false := h c rfl
    rw [trimStart, List.dropWhile_cons_of_neg (by rw [hc]; exact Bool.false_ne_true)]

/-- The end of a text is the beginning of the text backwards. -/
theorem trimEnd_eq (cs : List Char) : trimEnd cs = (trimStart cs.reverse).reverse := rfl

/-- Blanks after a text are trimmed off. -/
theorem trimEnd_append_of_blanks (hgap : ∀ c ∈ gap, isBlank c = true) (cs : List Char) :
    trimEnd (cs ++ gap) = trimEnd cs := by
  have hreverse : ∀ c ∈ gap.reverse, isBlank c = true := fun c hc => hgap c (List.mem_reverse.1 hc)
  rw [trimEnd_eq, List.reverse_append, trimStart_append_of_blanks hreverse, trimEnd_eq]

/-- A text that does not end in a blank stays as it is. -/
theorem trimEnd_of_getLast (h : ∀ c ∈ cs.getLast?, isBlank c = false) : trimEnd cs = cs := by
  rw [← List.head?_reverse] at h
  rw [trimEnd_eq, trimStart_of_head h, List.reverse_reverse]

/-- A text is blanks and what is left of it at its beginning. -/
theorem exists_trimStart (cs : List Char) :
    ∃ gap, (∀ c ∈ gap, isBlank c = true) ∧ cs = gap ++ trimStart cs ∧
      ∀ c ∈ (trimStart cs).head?, isBlank c = false := by
  refine ⟨cs.takeWhile isBlank, fun c hc => List.mem_takeWhile_imp hc,
    List.takeWhile_append_dropWhile.symm, fun c hc => ?_⟩
  have hhead := List.head?_dropWhile_not isBlank cs
  have hc : (cs.dropWhile isBlank).head? = some c := hc
  rwa [hc] at hhead

/-- What is trimmed off the end is blank, and no blank is left there. -/
theorem exists_trimEnd (cs : List Char) :
    ∃ gap, (∀ c ∈ gap, isBlank c = true) ∧ cs = trimEnd cs ++ gap ∧
      ∀ c ∈ (trimEnd cs).getLast?, isBlank c = false := by
  obtain ⟨gap, hgap, hcs, hhead⟩ := exists_trimStart cs.reverse
  refine ⟨gap.reverse, fun c hc => hgap c (List.mem_reverse.1 hc), ?_, ?_⟩
  · rw [trimEnd_eq, ← List.reverse_append, ← hcs, List.reverse_reverse]
  · rwa [trimEnd_eq, List.getLast?_reverse]

/-- **What is left of a text is what `trimStart` and `trimEnd` leave.** -/
theorem trimEnd_trimStart_eq_iff : trimEnd (trimStart cs) = ds ↔ Trims cs ds := by
  constructor
  · rintro rfl
    obtain ⟨before, hbefore, hcs, hfirst⟩ := exists_trimStart cs
    obtain ⟨after, hafter, hstart, hlast⟩ := exists_trimEnd (trimStart cs)
    by_cases hne : trimEnd (trimStart cs) = []
    · rw [hne, List.nil_append] at hstart
      rw [hne]
      refine .blanks fun c hc => ?_
      rw [hcs, hstart] at hc
      exact (List.mem_append.1 hc).elim (hbefore c) (hafter c)
    · have htrimmed : IsTrimmed (trimEnd (trimStart cs)) := by
        refine ⟨hne, fun c hc => hfirst c ?_, hlast⟩
        rw [hstart, List.head?_append_of_ne_nil _ hne]
        exact hc
      have hwhole : cs = before ++ trimEnd (trimStart cs) ++ after := by
        rw [List.append_assoc, ← hstart, ← hcs]
      have hrest := Trims.rest hbefore htrimmed hafter
      rwa [← hwhole] at hrest
  · intro h
    cases h with
    | blanks hgap =>
      have hnil : trimStart cs = [] := List.dropWhile_eq_nil_iff.2 hgap
      rw [hnil]
      rfl
    | @rest before _ after hbefore hcs hafter =>
      obtain ⟨c, rest, rfl⟩ := List.exists_cons_of_ne_nil hcs.nonempty
      have hfirst : ∀ x ∈ (c :: rest ++ after).head?, isBlank x = false := hcs.first
      rw [List.append_assoc, trimStart_append_of_blanks hbefore, trimStart_of_head hfirst,
        trimEnd_append_of_blanks hafter, trimEnd_of_getLast hcs.last]

/-- **Trimming is what it is said to be.** -/
theorem trim_eq_iff {s t : String} : trim s = t ↔ Trims s.toList t.toList := by
  rw [← trimEnd_trimStart_eq_iff, trim, ← String.toList_inj, String.toList_ofList]

/-- A text that begins and ends with something else than a blank is kept. -/
theorem Trims.refl (h : IsTrimmed cs) : Trims cs cs := by
  have hnone : ∀ c ∈ ([] : List Char), isBlank c = true := fun _ hc => by cases hc
  have hrest := Trims.rest hnone h hnone
  rwa [List.nil_append, List.append_nil] at hrest

/-- There is only one rest. -/
theorem Trims.unique {es : List Char} (h : Trims cs ds) (h' : Trims cs es) : ds = es :=
  (trimEnd_trimStart_eq_iff.2 h).symm.trans (trimEnd_trimStart_eq_iff.2 h')

end Text
end Remedy
