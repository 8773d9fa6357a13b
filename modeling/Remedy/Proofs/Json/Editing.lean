/-
# Records that have been edited

Out of a record members may be left, others put in, and all of them moved about.  As long as the
names of the record are different from each other and what is put in has other names, a member that
is still there is found as before (`Edited.lookup_eq`), and no name is there twice
(`Edited.length_filter_le`).
-/

import Mathlib.Data.List.Nodup
import Remedy.Json.Basic
import Remedy.Proofs.Settings.Plain

namespace Remedy
namespace Json

/-- Whether members are what becomes of others when some of those are left out, members of new
names are put in, and their order does not count. -/
def Edited (members edited : List (String × Json)) : Prop :=
  ∃ kept added, kept.Sublist members ∧ (∀ m ∈ added, m.1 ∉ members.map Prod.fst) ∧
    edited.Perm (kept ++ added)

variable {members edited : List (String × Json)} {n : String} {j : Json}

/-- Members are edited by doing nothing. -/
theorem edited_self (members : List (String × Json)) : Edited members members := by
  refine ⟨members, [], List.Sublist.refl members, fun m hm => absurd hm List.not_mem_nil, ?_⟩
  rw [List.append_nil]

/-- A member whose name has been there has been there itself. -/
theorem Edited.mem (h : Edited members edited) {m : String × Json} (hm : m ∈ edited)
    (hn : m.1 ∈ members.map Prod.fst) : m ∈ members := by
  obtain ⟨kept, added, hkept, hadded, hperm⟩ := h
  rcases List.mem_append.1 (hperm.mem_iff.1 hm) with hm | hm
  · exact hkept.subset hm
  · exact absurd hn (hadded m hm)

/-- A name is looked up if and only if its member is there. -/
theorem lookup_eq_some_iff
    (h : ∀ m ∈ members, ∀ m' ∈ members, m.1 = n → m'.1 = n → m = m') :
    lookup members n = some j ↔ (n, j) ∈ members := by
  rw [lookup, Option.map_eq_some_iff]
  simp only [Settings.find?_eq_some_iff_of_unique (l := members.reverse) (by
    intro m hm m' hm' hn hn'
    exact h m (List.mem_reverse.1 hm) m' (List.mem_reverse.1 hm') (beq_iff_eq.1 hn)
      (beq_iff_eq.1 hn')), List.mem_reverse, beq_iff_eq]
  constructor
  · rintro ⟨m, ⟨hm, rfl⟩, rfl⟩
    exact hm
  · exact fun hm => ⟨(n, j), ⟨hm, rfl⟩, rfl⟩

/-- What is looked up is the value of a member. -/
theorem mem_of_lookup (h : lookup members n = some j) : (n, j) ∈ members := by
  obtain ⟨m, hm, rfl⟩ := Option.map_eq_some_iff.1 h
  have hname : m.1 = n := beq_iff_eq.1 (List.find?_some (p := fun m : String × Json => m.1 == n) hm)
  rw [← hname]
  exact List.mem_reverse.1 (List.mem_of_find?_eq_some hm)

/-- A name that is looked up is the name of a member. -/
theorem mem_names_of_lookup (h : lookup members n = some j) : n ∈ members.map Prod.fst :=
  List.mem_map_of_mem (mem_of_lookup h)

/-- **A member whose name is there once can be brought to the front.** -/
theorem perm_cons_of_once (honce : (members.filter fun m => m.1 == n).length ≤ 1)
    (h : (n, j) ∈ members) :
    members.Perm ((n, j) :: members.filter fun m => !m.1 == n) := by
  have hmem : (n, j) ∈ members.filter fun m => m.1 == n := List.mem_filter.2 ⟨h, beq_self_eq_true n⟩
  have hone : (members.filter fun m => m.1 == n) = [(n, j)] := by
    obtain ⟨m, hm⟩ := List.length_eq_one_iff.1
      (Nat.le_antisymm honce (List.length_pos_of_mem hmem))
    rw [hm, List.mem_singleton] at hmem
    rw [hm, hmem]
  have hperm := (List.filter_append_perm (fun m : String × Json => m.1 == n) members).symm
  rwa [hone] at hperm

/-- **A member in front, whose name is not there again, is the one that is found.** -/
theorem lookup_of_perm_cons {others : List (String × Json)}
    (hp : members.Perm ((n, j) :: others)) (ho : ∀ m ∈ others, m.1 ≠ n) :
    lookup members n = some j ∧ (members.filter fun m => m.1 == n).length ≤ 1 := by
  have hsame : ∀ m ∈ members, m.1 = n → m = (n, j) := fun m hm hn =>
    (List.mem_cons.1 (hp.mem_iff.1 hm)).resolve_right fun hm => ho m hm hn
  have hnone : others.filter (fun m => m.1 == n) = [] :=
    List.filter_eq_nil_iff.2 fun m hm hn => ho m hm (beq_iff_eq.1 hn)
  constructor
  · refine (lookup_eq_some_iff fun m hm m' hm' hn hn' => ?_).2 (hp.mem_iff.2 List.mem_cons_self)
    rw [hsame m hm hn, hsame m' hm' hn']
  · have hfront : ((n, j) :: others).filter (fun m => m.1 == n) = [(n, j)] := by
      rw [List.filter_cons, if_pos (beq_self_eq_true n), hnone]
    rw [(hp.filter _).length_eq, hfront]
    exact Nat.le_refl 1

/-- Two members whose names are there once can be brought to the front, and neither name is among
what comes after them. -/
theorem perm_pair_of_once {n' : String} {j' : Json} (hne : n' ≠ n)
    (honce : (members.filter fun m => m.1 == n).length ≤ 1)
    (honce' : (members.filter fun m => m.1 == n').length ≤ 1)
    (h : (n, j) ∈ members) (h' : (n', j') ∈ members) :
    ∃ others, members.Perm ((n, j) :: (n', j') :: others) ∧
      ∀ m ∈ others, m.1 ≠ n ∧ m.1 ≠ n' := by
  have hfirst := perm_cons_of_once honce h
  -- the second member is brought to the front of what the first one leaves
  have hkept : (n', j') ∈ members.filter fun m => !m.1 == n := by
    simpa [List.mem_filter, hne] using h'
  have hsecond := perm_cons_of_once
    (Nat.le_trans (List.filter_sublist.filter _).length_le honce') hkept
  refine ⟨_, hfirst.trans (hsecond.cons _), fun m hm => ?_⟩
  obtain ⟨hm, hnot'⟩ := List.mem_filter.1 hm
  obtain ⟨-, hnot⟩ := List.mem_filter.1 hm
  exact ⟨by simpa using hnot, by simpa using hnot'⟩

/-- Two members in front, whose names are not there again, are found. -/
theorem lookup_of_perm_pair {n' : String} {j' : Json} {others : List (String × Json)}
    (hne : n' ≠ n) (hp : members.Perm ((n, j) :: (n', j') :: others))
    (ho : ∀ m ∈ others, m.1 ≠ n) :
    lookup members n = some j ∧ (members.filter fun m => m.1 == n).length ≤ 1 :=
  lookup_of_perm_cons hp (List.forall_mem_cons.2 ⟨hne, ho⟩)

section
variable (hnames : (members.map Prod.fst).Nodup) (h : Edited members edited)
  (hn : n ∈ members.map Prod.fst)
include hnames h hn

/-- **A member that is still there is found as before,** and one that has been left out is not. -/
theorem Edited.lookup_eq :
    lookup edited n = if n ∈ edited.map Prod.fst then lookup members n else none := by
  have hunique : ∀ m ∈ members, ∀ m' ∈ members, m.1 = n → m'.1 = n → m = m' :=
    fun m hm m' hm' hn hn' => List.inj_on_of_nodup_map hnames hm hm' (hn.trans hn'.symm)
  have hlookup : ∀ j, lookup edited n = some j ↔ (n, j) ∈ edited := fun j =>
    lookup_eq_some_iff fun m hm m' hm' hmn hmn' =>
      hunique m (h.mem hm (hmn ▸ hn)) m' (h.mem hm' (hmn' ▸ hn)) hmn hmn'
  split
  · next hmem =>
    obtain ⟨⟨name, j⟩, hm, rfl⟩ := List.mem_map.1 hmem
    rw [(hlookup j).2 hm, (lookup_eq_some_iff hunique).2 (h.mem hm hn)]
  · next hmem =>
    refine Option.eq_none_iff_forall_ne_some.2 fun j hj => hmem ?_
    exact List.mem_map.2 ⟨(n, j), (hlookup j).1 hj, rfl⟩

/-- **No name is there twice.** -/
theorem Edited.length_filter_le : (edited.filter fun m => m.1 == n).length ≤ 1 := by
  obtain ⟨kept, added, hkept, hadded, hperm⟩ := h
  have hnew : added.filter (fun m => m.1 == n) = [] := by
    refine List.filter_eq_nil_iff.2 fun m hm hmn => hadded m hm ?_
    rwa [beq_iff_eq.1 hmn]
  have hold : (kept.filter fun m => m.1 == n).length ≤ (members.map Prod.fst).count n := by
    rw [List.count, List.countP_map, List.countP_eq_length_filter]
    exact (hkept.filter _).length_le
  rw [(hperm.filter _).length_eq, List.filter_append, hnew, List.append_nil]
  exact hold.trans (List.nodup_iff_count_le_one.1 hnames n)

end

end Json
end Remedy
