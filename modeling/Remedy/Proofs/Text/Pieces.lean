/-
# Cutting at a mark, and joining

`Cut` says how a text is cut at a mark without saying how the occurrences are found: the first
piece ends where no occurrence begins earlier, and what comes after that occurrence is cut in
turn.  There is one such cut, and `pieces` makes it (`pieces_eq_iff`).

Joined by something else, the pieces tell what they have been joined by as soon as there are
two of them (`intercalate_inj`): the length of the text gives away that of the joint, and the
first joint stands where the first piece ends.
-/

import Mathlib.Data.List.Infix
import Remedy.Text.Pieces

namespace Remedy
namespace Text

variable {mark cs : List Char} {ps qs : List (List Char)}

/-- **How a text is cut at a mark,** from left to right. -/
inductive Cut (mark : List Char) : List Char → List (List Char) → Prop where
  | last {cs : List Char} (h : ¬mark <:+: cs) : Cut mark cs [cs]
  | first {before after : List Char} {ps : List (List Char)}
      (hfirst : ∀ a b, before ++ mark ++ after = a ++ mark ++ b → before.length ≤ a.length)
      (hrest : Cut mark after ps) : Cut mark (before ++ mark ++ after) (before :: ps)

/-- The search for a mark is right. -/
theorem occurs_eq_true_iff : occurs mark cs = true ↔ mark <:+: cs := by
  induction cs with
  | nil => rw [occurs, List.isEmpty_iff, List.infix_nil]
  | cons c cs ih => rw [occurs, Bool.or_eq_true, List.isPrefixOf_iff_prefix, ih, List.infix_cons_iff]

/-- A mark does not occur across a character that is not in it. -/
theorem infix_of_infix_append_cons {m : Char} {before after : List Char} (hm : m ∉ mark)
    (h : mark <:+: before ++ m :: after) : mark <:+: before ∨ mark <:+: after := by
  have hempty : ∀ {part}, part <:+: mark → part <+: m :: after → part = [] := by
    intro part hpart hpre
    rcases List.prefix_cons_iff.1 hpre with rfl | ⟨rest, rfl, -⟩
    · rfl
    · exact absurd (hpart.subset List.mem_cons_self) hm
  rcases List.infix_append_iff.1 h with hbefore | hafter | ⟨a, b, rfl, ha, hb⟩
  · exact .inl hbefore
  · rcases List.infix_cons_iff.1 hafter with hpre | hafter
    · rw [hempty List.infix_rfl hpre]
      exact .inl (List.nil_infix)
    · exact .inr hafter
  · rw [hempty (List.suffix_append a b).isInfix hb, List.append_nil]
    exact .inl ha.isInfix

/-! ### The cut of a text -/

/-- Pieces from a place on are those of the rest. -/
theorem piecesFrom_eq_pieces (mark : List Char) (passed : Nat) (cs : List Char) :
    piecesFrom mark passed cs = pieces mark (cs.drop passed) := by
  induction cs generalizing passed with
  | nil => cases passed <;> rfl
  | cons c cs ih =>
    cases passed with
    | zero => rfl
    | succ passed => rw [piecesFrom, ih, List.drop_succ_cons]

/-- A mark at the beginning comes after an empty piece. -/
theorem pieces_append (hm : mark ≠ []) (after : List Char) :
    pieces mark (mark ++ after) = [] :: pieces mark after := by
  obtain ⟨c, rest, rfl⟩ := List.exists_cons_of_ne_nil hm
  have hprefix : (c :: rest).isPrefixOf (c :: (rest ++ after)) = true :=
    List.isPrefixOf_iff_prefix.2 (List.prefix_append (c :: rest) after)
  rw [pieces, List.cons_append, piecesFrom, if_pos hprefix, piecesFrom_eq_pieces, List.length_cons,
    Nat.add_sub_cancel, List.drop_left]

/-- A character where no mark begins belongs to the first piece. -/
theorem pieces_cons {c : Char} (hp : ¬mark <+: c :: cs) :
    pieces mark (c :: cs) = lengthen c (pieces mark cs) := by
  have hprefix : ¬mark.isPrefixOf (c :: cs) = true := fun h => hp (List.isPrefixOf_iff_prefix.1 h)
  rw [pieces, piecesFrom, if_neg hprefix, pieces]

namespace Cut

/-- There is a piece in every cut. -/
theorem exists_cons (h : Cut mark cs ps) : ∃ p ps', ps = p :: ps' := by
  cases h with
  | last _ => exact ⟨_, _, rfl⟩
  | first _ _ => exact ⟨_, _, rfl⟩

/-- Where the mark occurs there are two pieces at least. -/
theorem exists_two (hm : mark <:+: cs) (h : Cut mark cs ps) : ∃ p q ps', ps = p :: q :: ps' := by
  cases h with
  | last hnot => exact absurd hm hnot
  | first _ hrest =>
    obtain ⟨q, ps', rfl⟩ := hrest.exists_cons
    exact ⟨_, q, ps', rfl⟩

/-- A character at which no mark begins lengthens the first piece. -/
theorem cons {c : Char} (hp : ¬mark <+: c :: cs) (h : Cut mark cs ps) :
    Cut mark (c :: cs) (lengthen c ps) := by
  cases h with
  | last hnot => exact .last fun hpart => (List.infix_cons_iff.1 hpart).elim hp hnot
  | @first before after ps hfirst hrest =>
    have hlater : ∀ a b, c :: before ++ mark ++ after = a ++ mark ++ b →
        (c :: before).length ≤ a.length := by
      intro a b hab
      cases a with
      | nil =>
        rw [List.nil_append] at hab
        exact absurd ⟨b, hab.symm⟩ hp
      | cons d a =>
        obtain ⟨-, htail⟩ := List.cons.inj hab
        exact Nat.succ_le_succ (hfirst a b htail)
    exact .first hlater hrest

/-- **There is only one cut.** -/
theorem unique (h : Cut mark cs ps) (h' : Cut mark cs qs) : ps = qs := by
  induction h generalizing qs with
  | last hnot =>
    cases h' with
    | last _ => rfl
    | first _ _ => exact absurd (List.infix_append _ mark _) hnot
  | @first before after ps hfirst _ ih =>
    generalize hcs : before ++ mark ++ after = cs at h'
    cases h' with
    | last hnot =>
      rw [← hcs] at hnot
      exact absurd (List.infix_append before mark after) hnot
    | @first before' after' qs hfirst' hrest' =>
      -- neither of the two occurrences begins before the other one
      have hle := hfirst before' after' hcs
      have hge := hfirst' before after hcs.symm
      rw [List.append_assoc, List.append_assoc] at hcs
      obtain ⟨rfl, hmarked⟩ := List.append_inj hcs (Nat.le_antisymm hle hge)
      obtain rfl := List.append_cancel_left hmarked
      rw [ih hrest']

end Cut

/-- **Going along a text:** at each place it is at its end, or a mark begins, behind which it goes
on, or a character comes where no mark begins. -/
theorem mark_induction (hm : mark ≠ []) {motive : List Char → Prop} (nil : motive [])
    (occurrence : ∀ rest, motive rest → motive (mark ++ rest))
    (char : ∀ c cs, ¬mark <+: c :: cs → motive cs → motive (c :: cs)) (cs : List Char) :
    motive cs := by
  induction hn : cs.length using Nat.strong_induction_on generalizing cs with
  | _ n ih =>
  by_cases hp : mark <+: cs
  · obtain ⟨rest, rfl⟩ := hp
    have hpos := List.length_pos_iff.2 hm
    have hshorter : rest.length < n := by
      rw [← hn, List.length_append]
      omega
    exact occurrence rest (ih rest.length hshorter rest rfl)
  · cases cs with
    | nil => exact nil
    | cons c cs =>
      have hshorter : cs.length < n := by
        rw [← hn, List.length_cons]
        exact Nat.lt_succ_self _
      exact char c cs hp (ih cs.length hshorter cs rfl)

/-- **The pieces are what a text is cut into.** -/
theorem cut_pieces (hm : mark ≠ []) (cs : List Char) : Cut mark cs (pieces mark cs) := by
  induction cs using mark_induction hm with
  | nil => exact .last fun h => hm (List.infix_nil.1 h)
  | occurrence rest ih =>
    have hfirst : ∀ a b, [] ++ mark ++ rest = a ++ mark ++ b →
        ([] : List Char).length ≤ a.length := fun _ _ _ => Nat.zero_le _
    rw [pieces_append hm]
    exact .first hfirst ih
  | char c cs hp ih =>
    rw [pieces_cons hp]
    exact ih.cons hp

/-- **The pieces of a text are those of its cut.** -/
theorem pieces_eq_iff (hm : mark ≠ []) : pieces mark cs = ps ↔ Cut mark cs ps := by
  constructor
  · rintro rfl
    exact cut_pieces hm cs
  · exact (cut_pieces hm cs).unique

/-! ### Joining -/

/-- How long joined pieces are. -/
theorem length_intercalate_cons (joint p : List Char) (ps : List (List Char)) :
    (joint.intercalate (p :: ps)).length = (p :: ps).flatten.length + ps.length * joint.length := by
  induction ps generalizing p with
  | nil => rw [List.intercalate_singleton, List.flatten_singleton, List.length_nil, Nat.zero_mul,
      Nat.add_zero]
  | cons q ps ih =>
    have hflatten : (p :: q :: ps).flatten.length = p.length + (q :: ps).flatten.length := by
      rw [List.flatten_cons, List.length_append]
    rw [List.intercalate_cons_cons, List.length_append, List.length_append, ih, hflatten,
      List.length_cons, Nat.succ_mul]
    omega

/-- **Two pieces or more tell what they are joined by.** -/
theorem intercalate_inj {v w p q : List Char} :
    v.intercalate (p :: q :: ps) = w.intercalate (p :: q :: ps) ↔ v = w := by
  constructor
  · intro h
    have hjoined := congrArg List.length h
    rw [length_intercalate_cons, length_intercalate_cons, Nat.add_left_cancel_iff] at hjoined
    have hlength : v.length = w.length :=
      Nat.eq_of_mul_eq_mul_left (Nat.succ_pos ps.length) hjoined
    rw [List.intercalate_cons_cons, List.intercalate_cons_cons, List.append_assoc,
      List.append_assoc] at h
    exact (List.append_inj (List.append_cancel_left h) hlength).1
  · rintro rfl
    rfl

/-- What some pieces are joined by occurs in the text that they make. -/
theorem infix_intercalate (joint p q : List Char) (ps : List (List Char)) :
    joint <:+: joint.intercalate (p :: q :: ps) := by
  rw [List.intercalate_cons_cons]
  exact List.infix_append _ _ _

/-- Lengthening the first piece lengthens what they are joined to. -/
theorem intercalate_lengthen (joint : List Char) (c : Char) (hne : ps ≠ []) :
    joint.intercalate (lengthen c ps) = c :: joint.intercalate ps := by
  obtain ⟨p, ps, rfl⟩ := List.exists_cons_of_ne_nil hne
  cases ps with
  | nil => rw [lengthen, List.intercalate_singleton, List.intercalate_singleton]
  | cons q ps =>
    rw [lengthen, List.intercalate_cons_cons, List.intercalate_cons_cons, List.cons_append,
      List.cons_append]

/-- **Pieces without the mark are found again** in the text that they make when they are joined
by it. -/
theorem cut_intercalate {m : Char} (hne : ps ≠ []) (h : ∀ p ∈ ps, m ∉ p) :
    Cut [m] ([m].intercalate ps) ps := by
  induction ps with
  | nil => exact absurd rfl hne
  | cons p ps ih =>
    obtain ⟨hp, hps⟩ := List.forall_mem_cons.1 h
    cases ps with
    | nil =>
      rw [List.intercalate_singleton]
      exact .last fun hmark => hp (hmark.subset (List.mem_singleton_self m))
    | cons q ps =>
      rw [List.intercalate_cons_cons]
      refine .first (fun a b hab => ?_) (ih (List.cons_ne_nil q ps) hps)
      -- the character after `a` is the mark, and there is none in `p`
      by_contra hlt
      have hlt : a.length < p.length := Nat.lt_of_not_le hlt
      have hat := congrArg (·[a.length]?) hab
      simp only [List.append_assoc, List.getElem?_append_left hlt,
        List.getElem?_append_right (Nat.le_refl _), Nat.sub_self] at hat
      exact hp (List.mem_of_getElem? hat)

/-! ### Replacing -/

section
variable (hm : mark ≠ []) (value : List Char)
include hm

/-- There is always a piece. -/
theorem pieces_ne_nil (cs : List Char) : pieces mark cs ≠ [] := by
  obtain ⟨p, ps, hps⟩ := (cut_pieces hm cs).exists_cons
  rw [hps]
  exact List.cons_ne_nil p ps

/-- A mark is replaced, and then the search goes on behind it. -/
theorem substitute_append (after : List Char) :
    substitute mark value (mark ++ after) = value ++ substitute mark value after := by
  rw [substitute, pieces_append hm, List.intercalate_cons_of_ne_nil (pieces_ne_nil hm after),
    List.nil_append, substitute]

/-- A character where no mark begins is kept. -/
theorem substitute_cons {c : Char} (hp : ¬mark <+: c :: cs) :
    substitute mark value (c :: cs) = c :: substitute mark value cs := by
  rw [substitute, pieces_cons hp, intercalate_lengthen value c (pieces_ne_nil hm cs), substitute]

end

end Text
end Remedy
