/-
# What it means to match

`Regex.Matches` says which stretches of a text an expression matches, by what the expression
is: it is not about sets of places, nor about how often a repetition is tried.  The matcher,
which takes a set of places through a plan, follows that relation
(`Regex.follows_advance`), and so it finds a match if and only if there is one
(`Regex.occursIn_iff`).

A repetition without a bound is tried only so many times as there are places.  That is enough,
since a match never goes back, and repeating one that stays where it is leads nowhere
(`Times.exists_le`).
-/

import Mathlib.Tactic.SplitIfs
import Remedy.Pattern.Match

namespace Remedy
namespace Pattern

/-! ### Relations between places -/

/-- Whether one place is reached from another in so many steps. -/
inductive Times (R : Nat → Nat → Prop) : Nat → Nat → Nat → Prop
  | zero (i : Nat) : Times R 0 i i
  | succ {n i j k : Nat} (h : R i j) (ht : Times R n j k) : Times R (n + 1) i k

/-- Whether a step never goes back, and goes on only as far as there are places. -/
def Advances (length : Nat) (R : Nat → Nat → Prop) : Prop :=
  ∀ i j, R i j → i = j ∨ i < j ∧ j ≤ length

namespace Times

variable {R : Nat → Nat → Prop} {m n i j k : Nat}

/-- No steps lead nowhere else. -/
theorem zero_iff : Times R 0 i j ↔ i = j := by
  constructor
  · rintro ⟨⟩
    rfl
  · rintro rfl
    exact .zero i

/-- One step more is taken first. -/
theorem succ_iff : Times R (n + 1) i k ↔ ∃ j, R i j ∧ Times R n j k := by
  constructor
  · rintro (_ | ⟨h, ht⟩)
    exact ⟨_, h, ht⟩
  · rintro ⟨j, h, ht⟩
    exact .succ h ht

/-- Some steps and then some more. -/
theorem trans (h : Times R m i j) (h' : Times R n j k) : Times R (m + n) i k := by
  induction h with
  | zero => rwa [Nat.zero_add]
  | succ h _ ih => rw [Nat.add_right_comm]; exact .succ h (ih h')

/-- So many steps and so many more. -/
theorem add_iff : Times R (m + n) i k ↔ ∃ j, Times R m i j ∧ Times R n j k := by
  constructor
  · intro h
    induction m generalizing i with
    | zero => exact ⟨i, .zero i, by rwa [Nat.zero_add] at h⟩
    | succ m ih =>
      rw [Nat.add_right_comm] at h
      obtain ⟨x, hx, hrest⟩ := succ_iff.1 h
      obtain ⟨j, hj, hjk⟩ := ih hrest
      exact ⟨j, .succ hx hj, hjk⟩
  · rintro ⟨j, hj, hjk⟩
    exact hj.trans hjk

/-- Many steps never go back either. -/
theorem advances {length : Nat} (hR : Advances length R) (n : Nat) :
    Advances length (Times R n) := by
  intro i j h
  induction h with
  | zero => exact .inl rfl
  | succ h _ ih =>
    have hstep := hR _ _ h
    omega

/-- **As many steps as there are places are enough:** steps that stay can be left out. -/
theorem exists_le {length : Nat} (hR : Advances length R) (h : Times R n i j) :
    ∃ m ≤ length, Times R m i j := by
  -- each step that is left goes on by a place at least
  have hdistance : ∃ m, m + i ≤ j ∧ (m = 0 ∨ j ≤ length) ∧ Times R m i j := by
    induction h with
    | zero i => exact ⟨0, by omega, .inl rfl, .zero i⟩
    | @succ n i j k h _ ih =>
      obtain ⟨m, hm, hlength, ht⟩ := ih
      rcases hR i j h with rfl | ⟨hij, hj⟩
      · exact ⟨m, hm, hlength, ht⟩
      · refine ⟨m + 1, by omega, .inr ?_, .succ h ht⟩
        rcases hlength with rfl | hk
        · rw [← zero_iff.1 ht]
          exact hj
        · exact hk
  obtain ⟨m, hm, hlength, ht⟩ := hdistance
  exact ⟨m, by omega, ht⟩

/-- At least so many steps are so many and a few more. -/
theorem exists_ge_iff {length least : Nat} (hR : Advances length R) :
    (∃ n, least ≤ n ∧ Times R n i j) ↔ ∃ m ≤ length + 1, Times R (least + m) i j := by
  constructor
  · rintro ⟨n, hn, ht⟩
    obtain ⟨m, rfl⟩ := Nat.exists_eq_add_of_le hn
    obtain ⟨x, hix, hxj⟩ := add_iff.1 ht
    obtain ⟨m', hm', hxj⟩ := exists_le hR hxj
    exact ⟨m', by omega, add_iff.2 ⟨x, hix, hxj⟩⟩
  · rintro ⟨m, -, ht⟩
    exact ⟨least + m, Nat.le_add_right .., ht⟩

/-- So many characters with a property, one after another. -/
theorem chars_iff {text : List Char} {P : Char → Prop} :
    Times (fun i j => j = i + 1 ∧ ∃ c, text[i]? = some c ∧ P c) n i j ↔
      j = i + n ∧ ∀ k < n, ∃ c, text[i + k]? = some c ∧ P c := by
  induction n generalizing i with
  | zero =>
    rw [zero_iff]
    constructor
    · rintro rfl
      exact ⟨rfl, fun k hk => absurd hk (Nat.not_lt_zero k)⟩
    · rintro ⟨rfl, -⟩
      rfl
  | succ n ih =>
    simp only [succ_iff, ih]
    constructor
    · rintro ⟨_, ⟨rfl, hc⟩, rfl, hrest⟩
      refine ⟨by omega, fun k hk => ?_⟩
      cases k with
      | zero => exact hc
      | succ k =>
        have hk' := hrest k (by omega)
        rwa [Nat.add_assoc, Nat.add_comm 1] at hk'
    · rintro ⟨rfl, hall⟩
      refine ⟨i + 1, ⟨rfl, hall 0 (Nat.succ_pos n)⟩, by omega, fun k hk => ?_⟩
      rw [Nat.add_assoc, Nat.add_comm 1]
      exact hall (k + 1) (by omega)

end Times

/-! ### Sets of places -/

/-- The bits of a set are those that it is made of. -/
theorem testBit_bitsOf (bs : List Bool) (i : Nat) : (bitsOf bs).testBit i = bs[i]?.getD false := by
  induction bs generalizing i with
  | nil => simp [bitsOf]
  | cons b bs ih =>
    have hhalf : (2 * bitsOf bs + b.toNat) / 2 = bitsOf bs := by
      cases b <;> simp only [Bool.toNat_true, Bool.toNat_false] <;> omega
    cases i with
    | zero => cases b <;> simp [bitsOf, Nat.add_mod]
    | succ i => rw [bitsOf, Nat.testBit_add_one, hhalf, ih, List.getElem?_cons_succ]

/-- A place is in the difference if it is in the first set and not in the second one. -/
theorem testBit_without (s t i : Nat) :
    (without s t).testBit i = (s.testBit i && !t.testBit i) := by
  rw [without, Nat.testBit_xor, Nat.testBit_or]
  cases s.testBit i <;> cases t.testBit i <;> rfl

/-- **Whether a function takes sets of places along a relation.** -/
def Follows (f : Nat → Nat) (R : Nat → Nat → Prop) : Prop :=
  ∀ s j, (f s).testBit j = true ↔ ∃ i, s.testBit i = true ∧ R i j

namespace Follows

variable {f g : Nat → Nat} {R S : Nat → Nat → Prop}

/-- One plan after another follows one relation and then the other. -/
theorem comp (hf : Follows f R) (hg : Follows g S) :
    Follows (fun s => g (f s)) fun i k => ∃ j, R i j ∧ S j k := by
  intro s k
  rw [hg]
  constructor
  · rintro ⟨j, hj, hjk⟩
    obtain ⟨i, hi, hij⟩ := (hf s j).1 hj
    exact ⟨i, hi, j, hij, hjk⟩
  · rintro ⟨i, hi, j, hij, hjk⟩
    exact ⟨j, (hf s j).2 ⟨i, hi, hij⟩, hjk⟩

/-- Two plans side by side follow either relation. -/
theorem union (hf : Follows f R) (hg : Follows g S) :
    Follows (fun s => f s ||| g s) fun i j => R i j ∨ S i j := by
  intro s j
  rw [Nat.testBit_or, Bool.or_eq_true, hf, hg, ← exists_or]
  simp only [and_or_left]

/-- Past a character, from the places before one that is wanted. -/
theorem move (places : Nat) :
    Follows (fun s => (s &&& places) <<< 1) fun i j => places.testBit i = true ∧ j = i + 1 := by
  intro s j
  simp only [Nat.testBit_shiftLeft, Nat.testBit_and, Bool.and_eq_true, decide_eq_true_eq]
  constructor
  · rintro ⟨hj, hs, hplaces⟩
    exact ⟨j - 1, hs, hplaces, by omega⟩
  · rintro ⟨i, hs, hplaces, rfl⟩
    exact ⟨by omega, hs, hplaces⟩

/-- A place is kept where a condition holds. -/
theorem check (places : Nat) :
    Follows (fun s => s &&& places) fun i j => places.testBit i = true ∧ j = i := by
  intro s j
  rw [Nat.testBit_and, Bool.and_eq_true]
  constructor
  · rintro ⟨hs, hplaces⟩
    exact ⟨j, hs, hplaces, rfl⟩
  · rintro ⟨i, hs, hplaces, rfl⟩
    exact ⟨hs, hplaces⟩

/-- What a function does not change is reached in any number of steps. -/
theorem times_of_fixed (hf : Follows f R) {s : Nat} (hs : f s = s) (n j : Nat) :
    s.testBit j = true ↔ ∃ i, s.testBit i = true ∧ Times R n i j := by
  induction n with
  | zero => simp only [Times.zero_iff, exists_eq_right]
  | succ n ih =>
    rw [ih]
    constructor
    · rintro ⟨i, hi, ht⟩
      rw [← hs] at hi
      obtain ⟨x, hx, hxi⟩ := (hf s i).1 hi
      exact ⟨x, hx, .succ hxi ht⟩
    · rintro ⟨i, hi, ht⟩
      obtain ⟨x, hix, ht⟩ := Times.succ_iff.1 ht
      refine ⟨x, ?_, ht⟩
      rw [← hs]
      exact (hf s x).2 ⟨i, hi, hix⟩

/-- Applying a function until it changes nothing is as good as applying it so many times. -/
theorem times (hf : Follows f R) (n : Nat) : Follows (iterate f n) (Times R n) := by
  intro s j
  induction n generalizing s with
  | zero => simp only [iterate, Times.zero_iff, exists_eq_right]
  | succ n ih =>
    rw [iterate]
    split
    · next hs => exact hf.times_of_fixed hs (n + 1) j
    · rw [ih]
      constructor
      · rintro ⟨x, hx, ht⟩
        obtain ⟨i, hi, hix⟩ := (hf s x).1 hx
        exact ⟨i, hi, .succ hix ht⟩
      · rintro ⟨i, hi, ht⟩
        obtain ⟨x, hix, ht⟩ := Times.succ_iff.1 ht
        exact ⟨x, (hf s x).2 ⟨i, hi, hix⟩, ht⟩

/-- A set that no step leaves is not left by more steps either. -/
theorem mem_of_closed {s : Nat}
    (hs : ∀ i j, s.testBit i = true → R i j → s.testBit j = true) {n i j : Nat}
    (hi : s.testBit i = true) (ht : Times R n i j) : s.testBit j = true := by
  induction ht with
  | zero => exact hi
  | succ h _ ih => exact ih (hs _ _ hi h)

/-- **Only what was reached last need be followed.**  It is enough that the steps from all other
places that have been seen lead to such places again. -/
theorem spread (hf : Follows f R) {n seen last : Nat}
    (hlast : ∀ i, last.testBit i = true → seen.testBit i = true)
    (hseen : ∀ i j, seen.testBit i = true → last.testBit i = false → R i j →
      seen.testBit j = true) (j : Nat) :
    (Pattern.spread f n seen last).testBit j = true ↔
      ∃ i, seen.testBit i = true ∧ ∃ m ≤ n, Times R m i j := by
  induction n generalizing seen last with
  | zero => simp [Pattern.spread, Times.zero_iff]
  | succ n ih =>
    -- what is new is what is reached from the last places and has not been seen
    have hfresh : ∀ i, (without (f last) seen).testBit i = true ↔
        (∃ x, last.testBit x = true ∧ R x i) ∧ seen.testBit i = false := by
      intro i
      rw [testBit_without, Bool.and_eq_true, hf, Bool.not_eq_true']
    have hstep : ∀ i x, seen.testBit i = true → R i x →
        seen.testBit x = true ∨ (without (f last) seen).testBit x = true := by
      intro i x hi hix
      by_cases hx : seen.testBit x = true
      · exact .inl hx
      · by_cases hil : last.testBit i = true
        · exact .inr ((hfresh x).2 ⟨⟨i, hil, hix⟩, Bool.eq_false_iff.2 hx⟩)
        · exact absurd (hseen i x hi (Bool.eq_false_iff.2 hil) hix) hx
    rw [Pattern.spread]
    split
    · next hnone =>
      constructor
      · exact fun hj => ⟨j, hj, 0, Nat.zero_le _, .zero j⟩
      · rintro ⟨i, hi, m, -, ht⟩
        refine mem_of_closed (fun i x hi hix => ?_) hi ht
        rcases hstep i x hi hix with hx | hx
        · exact hx
        · rw [hnone, Nat.zero_testBit] at hx
          cases hx
    · rw [ih]
      · constructor
        · rintro ⟨i, hi, m, hm, ht⟩
          rw [Nat.testBit_or, Bool.or_eq_true] at hi
          rcases hi with hi | hi
          · exact ⟨i, hi, m, by omega, ht⟩
          · obtain ⟨⟨x, hx, hxi⟩, -⟩ := (hfresh i).1 hi
            exact ⟨x, hlast x hx, m + 1, by omega, .succ hxi ht⟩
        · rintro ⟨i, hi, m, hm, ht⟩
          cases ht with
          | zero => exact ⟨j, by rw [Nat.testBit_or, hi, Bool.true_or], 0, Nat.zero_le _, .zero j⟩
          | @succ m _ x _ hix ht =>
            refine ⟨x, ?_, m, by omega, ht⟩
            rw [Nat.testBit_or, Bool.or_eq_true]
            exact hstep i x hi hix
      · intro i hi
        rw [Nat.testBit_or, hi, Bool.or_true]
      · intro i x hi hif hix
        rw [Nat.testBit_or, hif, Bool.or_false] at hi
        rw [Nat.testBit_or, Bool.or_eq_true]
        exact hstep i x hi hix

/-- A repetition, at least so many times and then up to so many times more. -/
theorem rep (hf : Follows f R) (least more : Nat) :
    Follows (fun s => Pattern.spread f more (iterate f least s) (iterate f least s))
      fun i j => ∃ m ≤ more, Times R (least + m) i j := by
  intro s j
  rw [hf.spread (fun i hi => hi) fun i j hi hif => absurd hi (Bool.eq_false_iff.1 hif)]
  simp only [hf.times least s, Times.add_iff]
  constructor
  · rintro ⟨x, ⟨i, hi, hix⟩, m, hm, ht⟩
    exact ⟨i, hi, m, hm, x, hix, ht⟩
  · rintro ⟨i, hi, m, hm, x, hix, ht⟩
    exact ⟨x, ⟨i, hi, hix⟩, m, hm, ht⟩

end Follows

/-! ### Matches -/

/-- The character before a place. -/
def before (text : List Char) : Nat → Option Char
  | 0 => none
  | i + 1 => text[i]?

mutual

/-- **Whether an expression matches the stretch of a text from one place to another.**  A
bound on a repetition below the number that is called for counts for nothing. -/
def Regex.Matches (text : List Char) : Regex → Nat → Nat → Prop
  | .empty, i, j => i = j
  | .text cs, i, j => j = i + cs.length ∧ ∀ n < cs.length, text[i + n]? = cs[n]?
  | .set s, i, j => j = i + 1 ∧ ∃ c, text[i]? = some c ∧ s.has c.toNat = true
  | .look l, i, j => j = i ∧ i ≤ text.length ∧ l.holds (before text i) text[i]? = true
  | .group r, i, j => r.Matches text i j
  | .rep r least most _, i, j =>
    ∃ n, least ≤ n ∧ (∀ m ∈ most, n ≤ max least m) ∧ Times (r.Matches text) n i j
  | .row parts, i, j => Regex.MatchesRow text parts i j
  | .choice branches, i, j => Regex.MatchesAny text branches i j

/-- Whether expressions match a stretch one after another. -/
def Regex.MatchesRow (text : List Char) : List Regex → Nat → Nat → Prop
  | [], i, j => i = j
  | r :: rest, i, k => ∃ j, r.Matches text i j ∧ Regex.MatchesRow text rest j k

/-- Whether one of some expressions matches a stretch. -/
def Regex.MatchesAny (text : List Char) : List Regex → Nat → Nat → Prop
  | [], _, _ => False
  | r :: rest, i, j => r.Matches text i j ∨ Regex.MatchesAny text rest i j

end

namespace Regex

variable {text : List Char}

/-! #### A match never goes back -/

/-- A text goes on by its length. -/
theorem advances_text (cs : List Char) : Advances text.length ((Regex.text cs).Matches text) := by
  intro i j h
  rw [Matches] at h
  obtain ⟨rfl, hcs⟩ := h
  rcases Nat.eq_zero_or_pos cs.length with hnil | hpos
  · exact .inl (by omega)
  · have hlast := hcs (cs.length - 1) (by omega)
    rw [List.getElem?_eq_getElem (by omega : cs.length - 1 < cs.length)] at hlast
    have hlt := (List.getElem?_eq_some_iff.1 hlast).1
    exact .inr ⟨by omega, by omega⟩

mutual

/-- **A match never goes back,** and it ends within the text if it takes anything. -/
theorem advances : ∀ r : Regex, Advances text.length (r.Matches text)
  | .empty => fun i j h => .inl (by rwa [Matches] at h)
  | .text cs => advances_text cs
  | .set s => fun i j h => by
    rw [Matches] at h
    obtain ⟨rfl, c, hc, -⟩ := h
    have hlt := (List.getElem?_eq_some_iff.1 hc).1
    exact .inr ⟨Nat.lt_succ_self i, hlt⟩
  | .look l => fun i j h => by
    rw [Matches] at h
    exact .inl h.1.symm
  | .group r => fun i j h => by
    rw [Matches] at h
    exact r.advances i j h
  | .rep r least most greedy => fun i j h => by
    rw [Matches] at h
    obtain ⟨n, -, -, ht⟩ := h
    exact Times.advances r.advances n i j ht
  | .row parts => fun i j h => by
    rw [Matches] at h
    exact advances_row parts i j h
  | .choice branches => fun i j h => by
    rw [Matches] at h
    exact advances_any branches i j h

/-- **A row only goes on,** as each part of it does. -/
theorem advances_row : ∀ rs : List Regex, Advances text.length (MatchesRow text rs)
  | [] => fun i j h => .inl (by rwa [MatchesRow] at h)
  | r :: rest => fun i k h => by
    rw [MatchesRow] at h
    obtain ⟨j, hij, hjk⟩ := h
    have hleft := r.advances i j hij
    have hright := advances_row rest j k hjk
    omega

/-- **A choice only goes on,** as each branch of it does. -/
theorem advances_any : ∀ rs : List Regex, Advances text.length (MatchesAny text rs)
  | [] => fun i j h => by
    rw [MatchesAny] at h
    exact h.elim
  | r :: rest => fun i j h => by
    rw [MatchesAny] at h
    rcases h with h | h
    · exact r.advances i j h
    · exact advances_any rest i j h

end

/-! #### The matcher goes along matches -/

/-- The places before a character of a set. -/
theorem testBit_placesBefore (s : Character.Ranges) (i : Nat) :
    (placesBefore text s).testBit i = true ↔ ∃ c, text[i]? = some c ∧ s.has c.toNat = true := by
  rw [placesBefore, testBit_bitsOf, List.getElem?_map]
  cases text[i]? <;> simp

/-- What stands on both sides of each place. -/
theorem getElem?_neighbours (first : Option Char) (text : List Char) (i : Nat) :
    (neighbours first text)[i]? =
      if i ≤ text.length then some (if i = 0 then first else before text i, text[i]?)
      else none := by
  induction text generalizing first i with
  | nil =>
    cases i with
    | zero => rfl
    | succ i => rfl
  | cons c text ih =>
    cases i with
    | zero => rfl
    | succ i =>
      rw [neighbours, List.getElem?_cons_succ, ih]
      cases i with
      | zero => simp [before]
      | succ i => simp [before]

/-- The places at which a look is satisfied. -/
theorem testBit_look (l : Look) (i : Nat) :
    (bitsOf ((neighbours none text).map fun p => l.holds p.1 p.2)).testBit i = true ↔
      i ≤ text.length ∧ l.holds (before text i) text[i]? = true := by
  have hbefore : (if i = 0 then none else before text i) = before text i := by
    split_ifs with hi
    · rw [hi]
      rfl
    · rfl
  rw [testBit_bitsOf, List.getElem?_map, getElem?_neighbours, hbefore]
  split_ifs with hi
  · simp [hi]
  · simp [hi]

/-- **The plan of a text follows it.** -/
theorem follows_text (cs : List Char) :
    Follows ((Regex.text cs).plan text).advance ((Regex.text cs).Matches text) := by
  intro s j
  rw [plan, Plan.advance]
  simp only [Matches]
  induction cs generalizing s with
  | nil => simp [Plan.advanceRow]
  | cons c cs ih =>
    have hplaces : ∀ i, (bitsOf (text.map (· == c))).testBit i = true ↔ text[i]? = some c := by
      intro i
      rw [testBit_bitsOf, List.getElem?_map]
      cases text[i]? <;> simp
    rw [List.map_cons, Plan.advanceRow, Plan.advance, ih]
    simp only [Follows.move _ s, hplaces, List.length_cons]
    constructor
    · rintro ⟨x, ⟨i, hi, hc, rfl⟩, rfl, hcs⟩
      refine ⟨i, hi, by omega, fun n hn => ?_⟩
      cases n with
      | zero => exact hc
      | succ n =>
        rw [List.getElem?_cons_succ, ← hcs n (by omega), Nat.add_right_comm, Nat.add_assoc]
    · rintro ⟨i, hi, rfl, hcs⟩
      refine ⟨i + 1, ⟨i, hi, hcs 0 (by omega), rfl⟩, by omega, fun n hn => ?_⟩
      rw [Nat.add_right_comm, Nat.add_assoc, hcs (n + 1) (by omega), List.getElem?_cons_succ]

mutual

/-- **The matcher goes from places to the ends of the matches that begin there.** -/
theorem follows_advance : ∀ r : Regex, Follows (r.plan text).advance (r.Matches text)
  | .empty => fun s j => by
    simp only [plan, Plan.advance, Plan.advanceRow, Matches, exists_eq_right]
  | .text cs => follows_text cs
  | .set ranges => fun s j => by
    rw [plan, Plan.advance, Follows.move]
    simp only [Matches, testBit_placesBefore, and_comm]
  | .look l => fun s j => by
    rw [plan, Plan.advance, Follows.check]
    simp only [Matches, testBit_look, and_comm]
  | .group r => fun s j => by
    simp only [plan, Matches]
    exact r.follows_advance s j
  | .rep r least none greedy => fun s j => by
    rw [plan, Plan.advance, r.follows_advance.rep]
    simp only [Matches, ← Times.exists_ge_iff r.advances, Option.mem_def, reduceCtorEq,
      false_implies, implies_true, true_and]
  | .rep r least (some most) greedy => fun s j => by
    rw [plan, Plan.advance, r.follows_advance.rep]
    simp only [Matches, Option.mem_def, Option.some.injEq, forall_eq']
    refine exists_congr fun i => and_congr_right fun _ => ?_
    constructor
    · rintro ⟨m, hm, ht⟩
      exact ⟨least + m, by omega, by omega, ht⟩
    · rintro ⟨n, hn, hn', ht⟩
      obtain ⟨m, rfl⟩ := Nat.exists_eq_add_of_le hn
      exact ⟨m, by omega, ht⟩
  | .row parts => fun s j => by
    simp only [plan, Plan.advance, Matches]
    exact follows_advanceRow parts s j
  | .choice branches => fun s j => by
    simp only [plan, Plan.advance, Matches]
    exact follows_advanceChoice branches s j

/-- **The plan of a row follows it,** one part after another. -/
theorem follows_advanceRow :
    ∀ rs : List Regex, Follows (Plan.advanceRow (plans text rs)) (MatchesRow text rs)
  | [] => fun s j => by
    simp only [plans, Plan.advanceRow, MatchesRow, exists_eq_right]
  | r :: rest => fun s j => by
    simp only [plans, Plan.advanceRow, MatchesRow]
    exact r.follows_advance.comp (follows_advanceRow rest) s j

/-- **The plan of a choice follows it,** branch by branch. -/
theorem follows_advanceChoice :
    ∀ rs : List Regex, Follows (Plan.advanceChoice (plans text rs)) (MatchesAny text rs)
  | [] => fun s j => by
    simp [plans, Plan.advanceChoice, MatchesAny]
  | r :: rest => fun s j => by
    simp only [plans, Plan.advanceChoice, MatchesAny]
    exact r.follows_advance.union (follows_advanceChoice rest) s j

end

/-- **A match is found if and only if there is one.** -/
theorem occursIn_iff (r : Regex) (text : List Char) :
    r.occursIn text = true ↔ ∃ i ≤ text.length, ∃ j, r.Matches text i j := by
  have hall : ∀ i, (allPlaces text).testBit i = true ↔ i ≤ text.length := by
    intro i
    rw [allPlaces, Nat.pow_eq, Nat.testBit_two_pow_sub_one, decide_eq_true_iff]
    omega
  rw [occursIn, bne_iff_ne]
  constructor
  · intro h
    obtain ⟨j, hj⟩ := Nat.exists_testBit_of_ne_zero h
    obtain ⟨i, hi, hij⟩ := (r.follows_advance _ j).1 hj
    exact ⟨i, (hall i).1 hi, j, hij⟩
  · rintro ⟨i, hi, j, hij⟩ hzero
    have hj := (r.follows_advance _ j).2 ⟨i, (hall i).2 hi, hij⟩
    rw [hzero, Nat.zero_testBit] at hj
    cases hj

end Regex

end Pattern
end Remedy
