/-
# Sections of plain variables

The names of plain variables consist of letters, digits and underscores of ASCII, and no
two of them are one name in lower case.  Such a name spells no path, so that each variable
of a section is one setting, and a setting is read off one variable at most
(`Section.member?_collect`, `Plain.text?_eq_some_iff`).  In what order the variables come
does not matter, and neither do those of other settings (`Plain.text?_congr`).
-/

import Mathlib.Data.List.Nodup
import Mathlib.Data.List.TakeWhile
import Remedy.Settings.Section

namespace Remedy

namespace Character

/-- What holds of the characters of ASCII, one by one. -/
theorem of_ascii {P : Char → Prop} (h : ∀ n < 0x80, P (Char.ofNat n)) {c : Char}
    (hc : c.toNat < 0x80) : P c := by
  have hn := h c.toNat hc
  rwa [Char.ofNat_toNat] at hn

/-- In ASCII each character has a lower-case form of its own. -/
theorem lowerFrom_of_ascii {cs : List Char} (h : ∀ c ∈ cs, c.toNat < 0x80) :
    ∀ before, lowerFrom before cs = cs.map Char.toLower := by
  induction cs with
  | nil => exact fun _ => rfl
  | cons c cs ih =>
    intro before
    have hc : c.toNat < 0x80 := h c (List.mem_cons_self ..)
    have hlower : lowerChar c = [c.toLower] := if_pos hc
    rw [lowerFrom, if_neg (by omega), hlower, ih fun c' hc' => h c' (List.mem_cons_of_mem _ hc')]
    rfl

end Character

namespace Settings

/-- Whether a character is a letter, a digit or an underscore of ASCII. -/
def isPlainChar (c : Char) : Bool := c.isAlphanum || c = '_'

/-- Whether a text consists of such characters. -/
def isPlain (s : String) : Bool := s.toList.all isPlainChar

/-- Plain characters are in ASCII, they stay plain in lower case, and they may stand in names. -/
theorem ascii_of_isPlainChar {c : Char} (h : isPlainChar c = true) :
    c.toNat < 0x80 ∧ isPlainChar c.toLower = true ∧ Path.isNameChar c = true := by
  have hlt : c.toNat < 0x80 := by
    change (((decide (65 ≤ c.toNat ∧ c.toNat ≤ 90) ||
      decide (97 ≤ c.toNat) && decide (c.toNat ≤ 122)) ||
      decide (48 ≤ c.toNat) && decide (c.toNat ≤ 57)) || decide (c = '_')) = true at h
    simp only [Bool.or_eq_true, Bool.and_eq_true, decide_eq_true_eq] at h
    rcases h with h | rfl
    · omega
    · decide
  exact ⟨hlt, Character.of_ascii (P := fun c => isPlainChar c = true →
    isPlainChar c.toLower = true ∧ Path.isNameChar c = true) (by decide) hlt h⟩

/-- A plain name is plain in small letters. -/
theorem isPlain_lowercase {s : String} (h : isPlain s = true) :
    isPlain (Character.lowercase s) = true := by
  have hchars := List.all_eq_true.1 h
  have hlower : Character.lowerFrom [] s.toList = s.toList.map Char.toLower :=
    Character.lowerFrom_of_ascii (fun c hc => (ascii_of_isPlainChar (hchars c hc)).1) []
  rw [isPlain, Character.lowercase, String.toList_ofList, hlower, List.all_map]
  exact List.all_eq_true.2 fun c hc => (ascii_of_isPlainChar (hchars c hc)).2.1

/-- **A plain name spells no path.** -/
theorem Path.ofName_of_isPlain {s : String} (h : isPlain s = true) : ofName s = ⟨s, []⟩ := by
  have hchars : ∀ c ∈ s.toList, isNameChar c = true := fun c hc =>
    (ascii_of_isPlainChar (List.all_eq_true.1 h c hc)).2.2
  have htake : s.toList.takeWhile isNameChar = s.toList := List.takeWhile_eq_self_iff.2 hchars
  have hdrop : s.toList.dropWhile isNameChar = [] := List.dropWhile_eq_nil_iff.2 hchars
  rw [ofName, read?, name?]
  simp only [htake, hdrop]
  split
  · rfl
  · simp [steps?]

namespace Section

variable {s : Section} {name setting : String}

/-- A variable is for a setting if it is called like the section and the setting. -/
theorem setting?_eq_some_iff :
    s.setting? name = some setting ↔ Character.lowercase name = s.start ++ setting := by
  unfold setting?
  rw [← String.toList_inj, String.toList_append]
  simp only
  split
  · next hp =>
    obtain ⟨rest, hrest⟩ := List.isPrefixOf_iff_prefix.1 hp
    rw [Option.some.injEq, ← hrest, List.drop_left, List.append_cancel_left_eq,
      ← String.toList_inj, String.toList_ofList]
  · next hp =>
    refine ⟨fun h => (by cases h), fun h => absurd (List.isPrefixOf_iff_prefix.2 ?_) hp⟩
    rw [h]
    exact List.prefix_append _ _

/-- The name of a setting is plain if that of its variable is. -/
theorem isPlain_setting (h : isPlain name = true) (hs : s.setting? name = some setting) :
    isPlain setting = true := by
  have hlower := isPlain_lowercase h
  rw [setting?_eq_some_iff.1 hs, isPlain, String.toList_append, List.all_append,
    Bool.and_eq_true] at hlower
  exact hlower.2

/-- The text of the last variable for a setting that is not empty. -/
def text? (s : Section) (vars : Variables) (setting : String) : Option String :=
  (vars.reverse.find? fun v => v.2 ≠ "" ∧ s.setting? v.1 = some setting).map (·.2)

end Section

/-- The member that has been put into a table, and the others. -/
theorem member?_upsert (name : String) (v : Value) (ms : List (String × Value)) (n : String) :
    (Value.table (upsert name (fun _ => v) ms)).member? n =
      if name = n then some v else (Value.table ms).member? n := by
  induction ms with
  | nil =>
    by_cases h : name = n <;> simp [upsert, Value.member?, h]
  | cons m ms ih =>
    simp only [Value.member?] at ih ⊢
    rw [upsert]
    split
    · next hm =>
      by_cases h : name = n
      · simp [hm, h]
      · simp [hm, h]
    · next hm =>
      by_cases h : name = n
      · rw [if_pos h] at ih ⊢
        rw [List.find?_cons_of_neg (by simpa [← h] using hm), ih]
      · rw [if_neg h] at ih ⊢
        by_cases hn : m.1 = n
        · simp [hn]
        · rw [List.find?_cons_of_neg (by simpa using hn), List.find?_cons_of_neg (by simpa using hn),
            ih]

namespace Section

variable {s : Section}

/-- **One plain variable more is one setting more.** -/
theorem add_table (ms : List (String × Value)) {v : String × String} (hv : isPlain v.1 = true) :
    ∃ ms', s.add (.table ms) v = .table ms' ∧ ∀ n, (Value.table ms').member? n =
      if v.2 ≠ "" ∧ s.setting? v.1 = some n then some (s.value n v.2)
      else (Value.table ms).member? n := by
  unfold add
  split
  · next hempty => exact ⟨ms, rfl, fun n => by rw [if_neg fun h => h.1 hempty]⟩
  · next hne =>
    cases hs : s.setting? v.1 with
    | none => exact ⟨ms, rfl, fun n => by rw [if_neg fun h => by cases h.2]⟩
    | some setting =>
      have hpath := Path.ofName_of_isPlain (isPlain_setting hv hs)
      refine ⟨upsert setting (fun _ => s.value setting v.2) ms, ?_, fun n => ?_⟩
      · simp only [hpath]
        rfl
      · rw [member?_upsert]
        by_cases hn : setting = n
        · rw [if_pos hn, if_pos ⟨hne, by rw [hn]⟩, hn]
        · rw [if_neg hn, if_neg fun h => hn (Option.some.inj h.2)]

/-- **A setting is read off the last variable for it that is not empty.** -/
theorem member?_collect {vars : Variables} (h : ∀ v ∈ vars, isPlain v.1 = true) (n : String) :
    (s.collect vars).member? n = (s.text? vars n).map (s.value n) := by
  -- the table so far counts where no variable that is still to come is for the setting
  have hfold : ∀ (vars : Variables), (∀ v ∈ vars, isPlain v.1 = true) →
      ∀ ms, ((vars.foldl s.add (.table ms)).member? n) =
        ((s.text? vars n).map (s.value n)).or ((Value.table ms).member? n) := by
    intro vars
    induction vars with
    | nil => exact fun _ ms => rfl
    | cons v vars ih =>
      intro h ms
      obtain ⟨ms', hadd, hms'⟩ := add_table (s := s) ms (h v (List.mem_cons_self ..))
      rw [List.foldl_cons, hadd, ih (fun v hv => h v (List.mem_cons_of_mem _ hv)), hms', text?,
        text?, List.reverse_cons, List.find?_append, List.find?_singleton]
      cases vars.reverse.find? fun v => v.2 ≠ "" ∧ s.setting? v.1 = some n with
      | some v' => rfl
      | none =>
        simp only [Option.none_or, decide_eq_true_eq]
        split <;> rfl
  rw [collect, hfold vars h]
  exact Option.or_none

end Section

/-- **Whether variables are plain:** each has a name without any path in it, and no two have
one name in lower case. -/
structure Plain (vars : Variables) : Prop where
  names : ∀ v ∈ vars, isPlain v.1 = true
  distinct : (vars.map fun v => Character.lowercase v.1).Nodup

/-- What at most one item is like is found if and only if it is there. -/
theorem find?_eq_some_iff_of_unique {α : Type} {p : α → Bool} {l : List α}
    (h : ∀ x ∈ l, ∀ y ∈ l, p x = true → p y = true → x = y) (x : α) :
    l.find? p = some x ↔ x ∈ l ∧ p x = true := by
  refine ⟨fun hx => ⟨List.mem_of_find?_eq_some hx, List.find?_some hx⟩, fun ⟨hx, hp⟩ => ?_⟩
  cases hy : l.find? p with
  | none => exact absurd hp (List.find?_eq_none.1 hy x hx)
  | some y =>
    exact congrArg some
      (h y (List.mem_of_find?_eq_some hy) x hx (List.find?_some hy) hp)

namespace Plain

variable {vars vars' : Variables} {s : Section} {n t : String}

/-- Plain variables of names that differ in case only are the same. -/
theorem eq_of_lowercase (h : Plain vars) {v w : String × String} (hv : v ∈ vars) (hw : w ∈ vars)
    (hlower : Character.lowercase v.1 = Character.lowercase w.1) : v = w :=
  List.inj_on_of_nodup_map h.distinct hv hw hlower

/-- Plain variables stay plain when some are left out. -/
theorem of_sublist (h : Plain vars) (hs : vars'.Sublist vars) : Plain vars' where
  names v hv := h.names v (hs.subset hv)
  distinct := h.distinct.sublist (hs.map _)

/-- A variable is found by its name if and only if it is there. -/
theorem find?_eq_some_iff (h : Plain vars) (name : String) (v : String × String) :
    vars.find? (fun v => v.1 == name) = some v ↔ v ∈ vars ∧ v.1 = name := by
  rw [find?_eq_some_iff_of_unique, beq_iff_eq]
  intro v hv w hw hvn hwn
  exact h.eq_of_lowercase hv hw (by rw [beq_iff_eq.1 hvn, beq_iff_eq.1 hwn])

/-- **A setting has the text of the variable for it,** in whatever order they come. -/
theorem text?_eq_some_iff (h : Plain vars) :
    s.text? vars n = some t ↔ t ≠ "" ∧ ∃ name, (name, t) ∈ vars ∧ s.setting? name = some n := by
  rw [Section.text?, Option.map_eq_some_iff]
  have hfind := find?_eq_some_iff_of_unique (l := vars.reverse)
    (p := fun v => decide (v.2 ≠ "" ∧ s.setting? v.1 = some n)) (by
      intro v hv w hw hvn hwn
      -- two variables for one setting are called the same in lower case
      refine h.eq_of_lowercase (List.mem_reverse.1 hv) (List.mem_reverse.1 hw) ?_
      rw [Section.setting?_eq_some_iff.1 (of_decide_eq_true hvn).2,
        Section.setting?_eq_some_iff.1 (of_decide_eq_true hwn).2])
  simp only [hfind, List.mem_reverse, decide_eq_true_eq]
  refine ⟨fun ⟨v, ⟨hv, hne, hs⟩, ht⟩ => ⟨ht ▸ hne, v.1, ht ▸ hv, hs⟩,
    fun ⟨hne, name, hv, hs⟩ => ⟨(name, t), ⟨hv, hne, hs⟩, rfl⟩⟩

/-- **Only the variables for a setting matter to it.** -/
theorem text?_congr (h : Plain vars) (h' : Plain vars')
    (hn : ∀ name t, s.setting? name = some n → ((name, t) ∈ vars ↔ (name, t) ∈ vars')) :
    s.text? vars n = s.text? vars' n := by
  refine Option.ext fun t => ?_
  rw [h.text?_eq_some_iff, h'.text?_eq_some_iff]
  exact and_congr_right fun _ => exists_congr fun name =>
    ⟨fun ⟨hv, hs⟩ => ⟨(hn name t hs).1 hv, hs⟩, fun ⟨hv, hs⟩ => ⟨(hn name t hs).2 hv, hs⟩⟩

end Plain

end Settings
end Remedy
