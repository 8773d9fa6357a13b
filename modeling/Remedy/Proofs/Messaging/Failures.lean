/-
# Failures change nothing

An operation of a client that fails leaves the whole session as it was: the queues, the
account of deliveries and the registration of every client (`Session.Steps.eq_of_error`).

So a delivery whose acknowledgment has failed is as good as before.  It stays unacknowledged
whatever the clients do next, until a receipt that names it is accepted
(`Session.Leads.unacknowledged`), and the receipt that has failed is accepted as soon as the
broker does not refuse (`failures_change_nothing`).
-/

import Remedy.Proofs.Messaging.Accounts

namespace Remedy
namespace Messaging

namespace Session

/-- **What the clients of a session do next,** the latest first, and which session that leads
to. -/
inductive Leads (s : Session) : History → Session → Prop where
  | refl : Leads s [] s
  | step {h : History} {s' : Session} (client : Nat) (op : Operation) :
    Leads s h s' → client < s'.clients.length →
      Leads s (⟨client, op, (s'.step client op).1⟩ :: h) (s'.step client op).2

variable {s s' : Session} {client : Nat} {op : Operation} {r : Except Error Answer} {e : Error}
  {receipt : Receipt} {t : Nat}

/-- **An operation that fails leaves the session as it was.** -/
theorem Steps.eq_of_error (hs : Steps s client op (.error e) s') : s' = s := by
  cases hs with
  | undeclared op queue hop hq => rfl
  | unregistered hnone => rfl
  | refused r e hnot => rfl

/-- A delivery stays unacknowledged unless a receipt that names it is accepted. -/
theorem Steps.unacknowledged (hs : Steps s client op r s') (ht : t ∈ s.broker.unacknowledged)
    (hr : ∀ x, Exchange.receipt? ⟨client, op, r⟩ = some x → x.tag? ≠ some t) :
    t ∈ s'.broker.unacknowledged := by
  cases hs with
  | delivered queue m rest hreg hq => exact List.mem_append_left _ ht
  | acknowledged x tag hf hmem hx =>
    have hne : t ≠ tag := by
      rintro rfl
      exact hr x rfl hx
    exact List.mem_filter.2 ⟨ht, decide_eq_true hne⟩
  | _ => exact ht

/-- **A delivery stays unacknowledged until a receipt that names it is accepted,** whatever else
the clients do. -/
theorem Leads.unacknowledged {h : History} (hl : Leads s h s') (ht : t ∈ s.broker.unacknowledged)
    (hr : ∀ x ∈ h, ∀ y, x.receipt? = some y → y.tag? ≠ some t) :
    t ∈ s'.broker.unacknowledged := by
  induction hl with
  | refl => exact ht
  | step client op _ _ ih =>
    obtain ⟨hlast, hbefore⟩ := List.forall_mem_cons.1 hr
    exact (steps_step _ client op).unacknowledged (ih hbefore) hlast

/-- A receipt that names an unacknowledged delivery is accepted unless the broker refuses. -/
theorem acknowledge_of_unacknowledged (client : Nat) (ht : t ∈ s.broker.unacknowledged)
    (hr : receipt.tag? = some t) :
    (s.step client (.acknowledge receipt)).1 = .ok .done ↔ s.broker.refusesAcks = false := by
  rcases (steps_step s client (.acknowledge receipt)).acknowledge_cases with
    ⟨t', -, -, hf, hdone, -⟩ | ⟨hnot, hfailed, -⟩
  · exact iff_of_true hdone hf
  · exact iff_of_false hfailed fun hf => hnot ⟨hf, t, ht, hr⟩

end Session

open Session (Leads)

/-- **Failures change nothing.**  An operation that fails leaves the broker, with its queues, the
next tag, the account of deliveries and all else, and the registrations of all clients as they
were.  If it was an acknowledgment of a delivery that nobody had acknowledged, the delivery is
still unacknowledged later on, as long as nobody has acknowledged it meanwhile, and then the same
receipt is accepted, from whichever client, if and only if the broker does not refuse. -/
theorem failures_change_nothing {s : Session} {client : Nat} {op : Operation} {e : Error}
    (he : (s.step client op).1 = .error e) :
    (s.step client op).2 = s ∧
    ∀ receipt t, op = .acknowledge receipt → receipt.tag? = some t →
      t ∈ s.broker.unacknowledged → ∀ h s', Leads (s.step client op).2 h s' →
        (∀ x ∈ h, ∀ y, x.receipt? = some y → y.tag? ≠ some t) →
        t ∈ s'.broker.unacknowledged ∧
        ∀ other, (s'.step other op).1 = .ok .done ↔ s'.broker.refusesAcks = false := by
  have hsame : (s.step client op).2 = s := by
    have hstep := Session.steps_step s client op
    rw [he] at hstep
    exact hstep.eq_of_error
  refine ⟨hsame, ?_⟩
  rintro receipt t rfl hr ht h s' hl hmeanwhile
  rw [hsame] at hl
  have hlater := hl.unacknowledged ht hmeanwhile
  exact ⟨hlater, fun other => Session.acknowledge_of_unacknowledged other hlater hr⟩

/-- A client acknowledges a delivery while the broker refuses, and once more when it does not
any longer; another delivery has been acknowledged by then. -/
theorem failures_change_nothing_of_refusal : ∃ h s, Reached h s ∧
    (∃ e, (s.step 1 (.acknowledge ⟨"1"⟩)).1 = .error e) ∧
    (s.step 1 (.acknowledge ⟨"1"⟩)).2 = s ∧
    ∃ h' s', Leads s h' s' ∧ History.acknowledged h' = [⟨"2"⟩] ∧
      (s'.step 1 (.acknowledge ⟨"1"⟩)).1 = .ok .done := by
  let s : Session := ⟨⟨[("alerts", [])], 2, [1, 2], [], true, 0⟩, [none, some "alerts"]⟩
  have h₀ := (Reached.start ["alerts"]).step 0 .fork (by decide)
  have h₁ := (h₀.step 0 (.send "alerts" [97]) (by decide)).step 0 (.send "alerts" [98]) (by decide)
  have h₂ := (h₁.step 1 (.startConsuming "alerts") (by decide)).step 1 .nextDelivery (by decide)
  have h₃ := h₂.step 1 .nextDelivery (by decide)
  have h₄ : Reached _ s := h₃.step 0 (.refuseAcks true) (by decide)
  have hfailed : (s.step 1 (.acknowledge ⟨"1"⟩)).1 = .error (.ack "alerts" 1 "channel closed") := by
    decide
  obtain ⟨hsame, hlater⟩ := failures_change_nothing hfailed
  have hl := ((Leads.refl.step 0 (.refuseAcks false) (by decide)).step 1 (.acknowledge ⟨"2"⟩)
    (by decide) : Leads (s.step 1 (.acknowledge ⟨"1"⟩)).2 _ _)
  obtain ⟨-, haccepted⟩ := hlater ⟨"1"⟩ 1 rfl (by decide) (by decide) _ _ hl (by decide)
  exact ⟨_, s, h₄, ⟨_, hfailed⟩, hsame, _, _, hl, by decide, (haccepted 1).2 (by decide)⟩

end Messaging
end Remedy
