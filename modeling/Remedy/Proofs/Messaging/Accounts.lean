/-
# The account of acknowledgments

A broker accounts for each tag that it has given out: either a receipt that names
the tag has been accepted, or the tag is unacknowledged (`Accounted`).  Receipts are
compared by what they name, so it does not matter how one is spelled, and of several
clients that hold one delivery only the first can acknowledge it.
-/

import Mathlib.Data.List.Perm.Basic
import Mathlib.Data.List.Nodup
import Remedy.Proofs.Messaging.History

namespace Remedy
namespace Messaging

/-- Whether `tags` are those of the accepted receipts and, with the unacknowledged
ones, all that have been given out. -/
structure Accounted (b : Broker) (tags : List Nat) : Prop where
  named : b.acknowledged.map Receipt.tag? = tags.map some
  partition : (tags ++ b.unacknowledged).Perm (List.range' 1 b.delivered)

/-- Taking a number out of a list without repeats. -/
theorem filter_ne_eq_erase {l : List Nat} (h : l.Nodup) (t : Nat) :
    l.filter (· ≠ t) = l.erase t := by
  rw [h.erase_eq_filter]
  exact List.filter_congr fun x _ => by rw [Bool.eq_iff_iff, decide_eq_true_iff, bne_iff_ne]

namespace Accounted

variable {b : Broker} {tags : List Nat}

/-- No tag is accounted for twice. -/
theorem nodup (h : Accounted b tags) : (tags ++ b.unacknowledged).Nodup :=
  h.partition.nodup_iff.2 List.nodup_range'

/-- The tags that are accounted for are those that have been handed out. -/
theorem mem_iff (h : Accounted b tags) (t : Nat) :
    t ∈ tags ∨ t ∈ b.unacknowledged ↔ 1 ≤ t ∧ t ≤ b.delivered := by
  rw [← List.mem_append, h.partition.mem_iff, List.mem_range'_1]
  omega

/-- **A delivery is unacknowledged at first.** -/
theorem deliver (h : Accounted b tags) (queues : Queues) :
    Accounted
      { b with
        queues := queues
        delivered := b.delivered + 1
        unacknowledged := b.unacknowledged ++ [b.delivered + 1] } tags where
  named := h.named
  partition := by
    show (tags ++ (b.unacknowledged ++ [b.delivered + 1])).Perm (List.range' 1 (b.delivered + 1))
    rw [← List.append_assoc, List.range'_1_concat, Nat.add_comm 1 b.delivered]
    exact h.partition.append_right _

/-- **An acknowledgment moves one tag from one side to the other.** -/
theorem acknowledge (h : Accounted b tags) {r : Receipt} {t : Nat}
    (ht : t ∈ b.unacknowledged) (hr : r.tag? = some t) :
    Accounted
      { b with
        unacknowledged := b.unacknowledged.filter (· ≠ t)
        acknowledged := b.acknowledged ++ [r] } (tags ++ [t]) where
  named := by
    show (b.acknowledged ++ [r]).map Receipt.tag? = (tags ++ [t]).map some
    rw [List.map_append, List.map_append, h.named, List.map_singleton, hr, List.map_singleton]
  partition := by
    have hnodup := h.nodup.of_append_right
    show (tags ++ [t] ++ b.unacknowledged.filter (· ≠ t)).Perm (List.range' 1 b.delivered)
    rw [List.append_assoc, List.singleton_append, filter_ne_eq_erase hnodup]
    exact ((List.perm_cons_erase ht).symm.append_left tags).trans h.partition

end Accounted

section
variable {h : History} {s s' : Session} {client : Nat} {op : Operation}
  {r : Except Error Answer} {tags : List Nat}

/-- **Each step keeps the account.** -/
theorem Session.Steps.accounted (hs : Steps s client op r s') (ha : Accounted s.broker tags) :
    ∃ tags', Accounted s'.broker tags' := by
  cases hs with
  | delivered queue m rest hreg hq => exact ⟨tags, ha.deliver _⟩
  | acknowledged r t hf ht hr => exact ⟨tags ++ [t], ha.acknowledge ht hr⟩
  | _ => exact ⟨tags, ha.named, ha.partition⟩

/-- **Whatever the clients do, each tag is accounted for.** -/
theorem Reached.accounted (hs : Reached h s) : ∃ tags, Accounted s.broker tags := by
  induction hs with
  | start names => exact ⟨[], rfl, .refl _⟩
  | step client op hs hc ih =>
    obtain ⟨tags, ha⟩ := ih
    exact (Session.steps_step _ client op).accounted ha

end

namespace Session

variable {s s' : Session} {client : Nat} {receipt : Receipt} {r : Except Error Answer}

/-- **A receipt is accepted or refused.**  If it is accepted, its tag, and no other, is
taken from those that are unacknowledged; if it is refused, nothing changes. -/
theorem Steps.acknowledge_cases (hs : Steps s client (.acknowledge receipt) r s') :
    (∃ t ∈ s.broker.unacknowledged, receipt.tag? = some t ∧ s.broker.refusesAcks = false ∧
      r = .ok .done ∧ s' = ⟨{ s.broker with
        unacknowledged := s.broker.unacknowledged.filter (· ≠ t)
        acknowledged := s.broker.acknowledged ++ [receipt] }, s.clients⟩) ∨
    ¬(s.broker.refusesAcks = false ∧
        ∃ t ∈ s.broker.unacknowledged, receipt.tag? = some t) ∧
      r ≠ .ok .done ∧ s' = s := by
  cases hs with
  | pushed op queue m ms hop hq => cases hop
  | undeclared op queue hop hq => rcases hop with hop | ⟨m, hop⟩ <;> cases hop
  | acknowledged receipt t hf ht hr => exact .inl ⟨t, ht, hr, hf, rfl, rfl⟩
  | refused receipt e hnot => exact .inr ⟨hnot, by simp, rfl⟩

end Session

/-- What is acknowledged in a history has been acknowledged by one of its exchanges. -/
theorem History.mem_acknowledged {h : History} {e : Exchange} {r : Receipt} (he : e ∈ h)
    (hr : e.receipt? = some r) : r ∈ h.acknowledged := by
  induction h with
  | nil => cases he
  | cons last before ih =>
    rw [acknowledged, List.mem_append]
    rcases List.mem_cons.1 he with rfl | he
    · exact .inr (by rw [hr]; exact List.mem_singleton_self r)
    · exact .inl (ih he)

/-- Where no tag is acknowledged twice, no two exchanges acknowledge one. -/
theorem History.pairwise_of_nodup {h : History}
    (hn : (h.acknowledged.map Receipt.tag?).Nodup) :
    h.Pairwise fun later earlier => ∀ r r', later.receipt? = some r →
      earlier.receipt? = some r' → r.tag? ≠ r'.tag? := by
  induction h with
  | nil => exact .nil
  | cons last before ih =>
    rw [acknowledged, List.map_append, List.nodup_append] at hn
    obtain ⟨hbefore, -, hdisjoint⟩ := hn
    refine .cons (fun earlier hmem r r' hr hr' heq => ?_) (ih hbefore)
    have hr₁ : r.tag? ∈ last.receipt?.toList.map Receipt.tag? := by
      rw [hr]
      exact List.mem_singleton_self _
    have hr₂ := List.mem_map_of_mem (f := Receipt.tag?) (mem_acknowledged hmem hr')
    exact hdisjoint _ hr₂ _ hr₁ heq.symm

/-- **The account of acknowledgments.**  Whatever the clients of a broker do, the tags
of the accepted receipts are distinct and disjoint from the unacknowledged ones, and
together these are the tags that have been given out; a receipt is accepted exactly
if the broker does not refuse and the receipt names an unacknowledged tag, which it
then removes; and so no delivery is acknowledged twice, whoever tries and however the
receipt is spelled. -/
theorem acknowledgments_accounted {h : History} {s : Session} (hs : Reached h s) :
    (∃ tags : List Nat, s.broker.acknowledged.map Receipt.tag? = tags.map some ∧ tags.Nodup ∧
      s.broker.unacknowledged.Nodup ∧ tags.Disjoint s.broker.unacknowledged ∧
      ∀ t, t ∈ tags ∨ t ∈ s.broker.unacknowledged ↔ 1 ≤ t ∧ t ≤ h.handedOut.length) ∧
    (∀ client receipt, let (r, s') := s.step client (.acknowledge receipt)
      (r = .ok .done ↔ s.broker.refusesAcks = false ∧
        ∃ t ∈ s.broker.unacknowledged, receipt.tag? = some t) ∧
      (r ≠ .ok .done → s' = s) ∧
      ∀ t, r = .ok .done → receipt.tag? = some t →
        s' = ⟨{ s.broker with
          unacknowledged := s.broker.unacknowledged.erase t
          acknowledged := s.broker.acknowledged ++ [receipt] }, s.clients⟩) ∧
    h.Pairwise fun later earlier => ∀ r r', later.receipt? = some r →
      earlier.receipt? = some r' → r.tag? ≠ r'.tag? := by
  obtain ⟨tags, ha⟩ := hs.accounted
  obtain ⟨htags, hunacknowledged, hdisjoint⟩ := List.nodup_append'.1 ha.nodup
  refine ⟨⟨tags, ha.named, htags, hunacknowledged, hdisjoint, ?_⟩, fun client receipt => ?_, ?_⟩
  · rw [← hs.delivered]
    exact ha.mem_iff
  · rcases (Session.steps_step s client (.acknowledge receipt)).acknowledge_cases with
      ⟨t, ht, hr, hf, hdone, hs'⟩ | ⟨hnot, hne, hs'⟩
    · refine ⟨iff_of_true hdone ⟨hf, t, ht, hr⟩, fun h => absurd hdone h, fun t' _ ht' => ?_⟩
      obtain rfl : t = t' := Option.some.inj (hr.symm.trans ht')
      rw [filter_ne_eq_erase hunacknowledged] at hs'
      exact hs'
    · exact ⟨iff_of_false hne hnot, fun _ => hs', fun _ hdone => absurd hdone hne⟩
  · refine History.pairwise_of_nodup ?_
    rw [← hs.acknowledged, ha.named]
    exact htags.map fun _ _ => Option.some.inj

/-- A delivery is acknowledged once, by either of two clients and in either spelling. -/
theorem acknowledgments_accounted_of_two_clients : ∃ h s, Reached h s ∧
    h.acknowledged = [⟨"+1"⟩] ∧ s.broker.unacknowledged = [2] ∧
    (s.step 0 (.acknowledge ⟨"1"⟩)).1 ≠ .ok .done ∧
    (s.step 1 (.acknowledge ⟨"02"⟩)).1 = .ok .done := by
  have h₀ := (Reached.start ["alerts"]).step 0 .fork (by decide)
  have h₁ := (h₀.step 0 (.send "alerts" [97]) (by decide)).step 0 (.send "alerts" [98]) (by decide)
  have h₂ := (h₁.step 1 (.startConsuming "alerts") (by decide)).step 1 .nextDelivery (by decide)
  have h₃ := (h₂.step 1 .nextDelivery (by decide)).step 0 (.acknowledge ⟨"+1"⟩) (by decide)
  have haccept := fun client r => ((acknowledgments_accounted h₃).2.1 client r).1
  exact ⟨_, _, h₃, by decide, by decide, mt (haccept 0 ⟨"1"⟩).1 (by decide),
    (haccept 1 ⟨"02"⟩).2 (by decide)⟩

end Messaging
end Remedy
