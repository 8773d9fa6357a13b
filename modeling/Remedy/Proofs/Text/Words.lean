/-
# Words and blanks

`Spaced` says how a text falls into words without saying how they are found: words and blanks
take turns, and only the blanks at the two ends may be missing.  There is exactly one way, and
`wordsOf` finds it (`wordsOf_eq_iff`).  So the words are what is left of a text without its
blanks (`Spaced.flatten_eq`), and words that are written with a blank between each two are
found again (`spaced_intercalate`).
-/

import Remedy.Text.Pieces

namespace Remedy
namespace Text

/-- **A word:** it is not empty, and there is no blank in it. -/
structure IsWord (w : List Char) : Prop where
  nonempty : w ≠ []
  unbroken : ∀ c ∈ w, isBlank c = false

/-- **How a text falls into words.**  A word comes after any blanks, and the text ends after it
or goes on with a blank. -/
inductive Spaced : List Char → List (List Char) → Prop where
  | blanks {gap : List Char} (hgap : ∀ c ∈ gap, isBlank c = true) : Spaced gap []
  | word {gap w rest : List Char} {ws : List (List Char)} (hgap : ∀ c ∈ gap, isBlank c = true)
      (hw : IsWord w) (hend : ∀ c ∈ rest.head?, isBlank c = true) (hrest : Spaced rest ws) :
      Spaced (gap ++ w ++ rest) (w :: ws)

/-! ### The words of a text -/

/-- There is a word after a character has been added to it. -/
theorem lengthen_ne_nil (c : Char) (ws : List (List Char)) : lengthen c ws ≠ [] := by
  cases ws with
  | nil => exact List.cons_ne_nil _ _
  | cons w ws => exact List.cons_ne_nil _ _

/-- There are no words just if all is blank. -/
theorem wordsOf_eq_nil_iff {cs : List Char} : wordsOf cs = [] ↔ cs.all isBlank = true := by
  induction cs with
  | nil => exact ⟨fun _ => rfl, fun _ => rfl⟩
  | cons c rest ih =>
    rw [wordsOf, List.all_cons, Bool.and_eq_true]
    split
    · next hblank => rw [ih, and_iff_right hblank]
    · next hblank =>
      constructor
      · intro h
        split at h
        · cases h
        · exact absurd h (lengthen_ne_nil c _)
      · exact fun h => absurd h.1 hblank

/-- A text has no words if and only if it is nothing but blanks. -/
theorem words_eq_nil_iff {s : String} : words s = [] ↔ isAllBlank s = true := by
  rw [words, List.map_eq_nil_iff, wordsOf_eq_nil_iff, isAllBlank]

/-- A word ends before a blank and at the end. -/
theorem endsWord_eq_true_iff {cs : List Char} :
    endsWord cs = true ↔ ∀ c ∈ cs.head?, isBlank c = true := by
  cases cs with
  | nil => simp [endsWord]
  | cons c rest => simp [endsWord]

namespace Spaced

variable {cs w : List Char} {ws : List (List Char)} {c : Char}

/-- One more blank at the beginning is in no word. -/
theorem cons_blank (hc : isBlank c = true) (h : Spaced cs ws) : Spaced (c :: cs) ws := by
  cases h with
  | blanks hgap =>
    exact .blanks (List.forall_mem_cons.2 ⟨hc, hgap⟩)
  | word hgap hw hend hrest =>
    exact .word (List.forall_mem_cons.2 ⟨hc, hgap⟩) hw hend hrest

/-- A text may begin with a word. -/
theorem append (hw : IsWord w) (hend : ∀ c ∈ cs.head?, isBlank c = true) (h : Spaced cs ws) :
    Spaced (w ++ cs) (w :: ws) := by
  have hgap : ∀ c ∈ ([] : List Char), isBlank c = true := fun _ hc => by cases hc
  exact .word hgap hw hend h

/-- A character in front of a blank, or at the end, is a word. -/
theorem cons_single (hc : isBlank c = false) (hend : ∀ d ∈ cs.head?, isBlank d = true)
    (h : Spaced cs ws) : Spaced (c :: cs) ([c] :: ws) := by
  have hw : IsWord [c] := ⟨List.cons_ne_nil c [], by simpa using hc⟩
  exact h.append hw hend

/-- A character in front of a word belongs to it. -/
theorem cons_word (hc : isBlank c = false) (hstart : ¬∀ d ∈ cs.head?, isBlank d = true)
    (h : Spaced cs ws) : Spaced (c :: cs) (lengthen c ws) := by
  cases h with
  | blanks hgap =>
    exact absurd (fun d hd => hgap d (List.mem_of_mem_head? hd)) hstart
  | @word gap w rest ws hgap hw hend hrest =>
    cases gap with
    | nil =>
      have hlonger : IsWord (c :: w) :=
        ⟨List.cons_ne_nil c w, List.forall_mem_cons.2 ⟨hc, hw.unbroken⟩⟩
      exact hrest.append hlonger hend
    | cons d gap =>
      refine absurd (fun x hx => ?_) hstart
      obtain rfl : d = x := Option.some.inj hx
      exact hgap d List.mem_cons_self

end Spaced

/-- A text falls into the words that are found in it. -/
theorem spaced_wordsOf (cs : List Char) : Spaced cs (wordsOf cs) := by
  induction cs with
  | nil => exact .blanks fun _ hc => by cases hc
  | cons c rest ih =>
    rw [wordsOf]
    split
    · next hblank => exact ih.cons_blank hblank
    · next hblank =>
      have hc : isBlank c = false := Bool.eq_false_iff.2 hblank
      split
      · next hend => exact ih.cons_single hc (endsWord_eq_true_iff.1 hend)
      · next hend => exact ih.cons_word hc fun h => hend (endsWord_eq_true_iff.2 h)

/-- Blanks in front do not matter. -/
theorem wordsOf_append_of_blanks {gap : List Char} (hgap : ∀ c ∈ gap, isBlank c = true)
    (cs : List Char) : wordsOf (gap ++ cs) = wordsOf cs := by
  induction gap with
  | nil => rfl
  | cons c gap ih =>
    obtain ⟨hc, hgap⟩ := List.forall_mem_cons.1 hgap
    rw [List.cons_append, wordsOf, if_pos hc, ih hgap]

/-- A word in front is the first one. -/
theorem wordsOf_append_of_isWord {w rest : List Char} (hw : IsWord w)
    (hend : ∀ c ∈ rest.head?, isBlank c = true) : wordsOf (w ++ rest) = w :: wordsOf rest := by
  obtain ⟨hne, hunbroken⟩ := hw
  induction w with
  | nil => exact absurd rfl hne
  | cons c w ih =>
    obtain ⟨hc, hunbroken⟩ := List.forall_mem_cons.1 hunbroken
    rw [List.cons_append, wordsOf, if_neg (Bool.eq_false_iff.1 hc)]
    cases w with
    | nil => rw [List.nil_append, if_pos (endsWord_eq_true_iff.2 hend)]
    | cons d w =>
      have hd : ¬endsWord (d :: w ++ rest) = true :=
        Bool.eq_false_iff.1 (hunbroken d List.mem_cons_self)
      rw [if_neg hd, ih (List.cons_ne_nil d w) hunbroken, lengthen]

/-- **The words of a text are the ones that it falls into.** -/
theorem wordsOf_eq_iff {cs : List Char} {ws : List (List Char)} :
    wordsOf cs = ws ↔ Spaced cs ws := by
  constructor
  · rintro rfl
    exact spaced_wordsOf cs
  · intro h
    induction h with
    | blanks hgap => exact wordsOf_eq_nil_iff.2 (List.all_eq_true.2 hgap)
    | word hgap hw hend _ ih =>
      rw [List.append_assoc, wordsOf_append_of_blanks hgap, wordsOf_append_of_isWord hw hend, ih]

/-! ### Texts and their words -/

namespace Spaced

variable {cs : List Char} {ws : List (List Char)}

/-- What is spaced are words. -/
theorem isWord (h : Spaced cs ws) : ∀ w ∈ ws, IsWord w := by
  induction h with
  | blanks _ => exact fun _ hw => by cases hw
  | word _ hw _ _ ih => exact List.forall_mem_cons.2 ⟨hw, ih⟩

/-- **Nothing but blanks is lost,** and nothing else is in another place. -/
theorem flatten_eq (h : Spaced cs ws) : ws.flatten = cs.filter fun c => !isBlank c := by
  have hdropped : ∀ gap : List Char, (∀ c ∈ gap, isBlank c = true) →
      gap.filter (fun c => !isBlank c) = [] := by
    intro gap hgap
    exact List.filter_eq_nil_iff.2 fun c hc => by rw [hgap c hc]; decide
  induction h with
  | blanks hgap => rw [hdropped _ hgap, List.flatten_nil]
  | @word gap w rest ws hgap hw _ _ ih =>
    have hkept : w.filter (fun c => !isBlank c) = w :=
      List.filter_eq_self.2 fun c hc => by rw [hw.unbroken c hc]; rfl
    rw [List.flatten_cons, ih, List.filter_append, List.filter_append, hdropped gap hgap, hkept,
      List.nil_append]

end Spaced

/-- **Words with a blank between each two are found again.** -/
theorem spaced_intercalate {ws : List (List Char)} (h : ∀ w ∈ ws, IsWord w) :
    Spaced ([' '].intercalate ws) ws := by
  induction ws with
  | nil => exact .blanks fun _ hc => by cases hc
  | cons w ws ih =>
    obtain ⟨hw, hws⟩ := List.forall_mem_cons.1 h
    cases ws with
    | nil =>
      have hlast := (spaced_wordsOf []).append hw (fun _ hc => by cases hc)
      rw [List.append_nil] at hlast
      rw [List.intercalate_singleton]
      exact hlast
    | cons w' ws =>
      rw [List.intercalate_cons_cons, List.append_assoc]
      have hblank : isBlank ' ' = true := by decide
      refine ((ih hws).cons_blank hblank).append hw fun c hc => ?_
      obtain rfl : ' ' = c := Option.some.inj hc
      exact hblank

end Text
end Remedy
