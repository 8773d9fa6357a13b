/-
# First in, first out

What has been put into a queue has been delivered from it, in order, or waits in
it (`Reached.messages`).  What a client gets that asks for a delivery is therefore
settled by what has been done before: it is the message that is `due`, from the
queue of the client's own registration, under the next tag.
-/

import Remedy.Proofs.Messaging.History

namespace Remedy
namespace Messaging

/-- What a client gets that asks for a delivery after all of this. -/
def History.due (h : History) (client : Nat) : Except Error Answer :=
  match h.registration client with
  | none => .error .notConsuming
  | some queue =>
    .ok (.delivery (((h.pushed queue)[(h.delivered queue).length]?).map fun m =>
      ⟨.ofTag (h.handedOut.length + 1), m.payload, m.redelivered⟩))

/-- Replacing one queue leaves the others as they are. -/
theorem Queues.messages_set (qs : Queues) (name : String) (ms : List Message) (other : String) :
    (qs.set name ms).messages other = if name = other then ms else qs.messages other := by
  unfold messages
  split
  · next h => rw [← h, get?_set_self, Option.getD_some]
  · next h => rw [get?_set_of_ne (Ne.symm h)]

/-- The messages of a queue that is declared. -/
theorem Queues.messages_of_get? {qs : Queues} {name : String} {ms : List Message}
    (h : qs.get? name = some ms) : qs.messages name = ms := by
  rw [messages, h, Option.getD_some]

section
variable {h : History} {s s' : Session} {client : Nat} {op : Operation}
  {r : Except Error Answer}

/-- **What an operation puts into a queue or takes out of it:** the messages before
it, with what is put there, are what is delivered, with the messages after it. -/
theorem Session.Steps.messages_eq (hs : Steps s client op r s') (queue : String) :
    s.broker.queues.messages queue ++ Exchange.pushed queue ⟨client, op, r⟩ =
      (if (s.connection client).registration = some queue then
        (Exchange.delivery? ⟨client, op, r⟩).toList else []).map Delivery.message ++
        s'.broker.queues.messages queue := by
  cases hs with
  | declared name =>
    have hkeep : (s.broker.declare name).queues.messages queue =
        s.broker.queues.messages queue := by
      rw [Broker.declare, Queues.messages_set]
      split
      · next h => rw [h]
      · rfl
    simp [Exchange.pushed, Operation.push?, Exchange.delivery?, hkeep]
  | pushed op name m ms hop hq =>
    simp only [Exchange.pushed, hop, Exchange.delivery?_of_push hop, Queues.messages_set,
      Option.toList_none, ite_self, List.map_nil, List.nil_append]
    split
    · next h => rw [← h, Queues.messages_of_get? hq]
    · exact List.append_nil _
  | delivered name m rest hreg hq =>
    simp only [Exchange.pushed, Operation.push?, Exchange.delivery?, hreg, Queues.messages_set,
      List.append_nil]
    by_cases h : name = queue
    · subst h
      simp [Queues.messages_of_get? hq, Delivery.message]
    · simp [h]
  | undeclared op name hop hq => simp
  | _ => simp [Exchange.pushed, Operation.push?, Exchange.delivery?]

/-- **Nothing is lost and nothing comes twice.** -/
theorem Reached.messages (hs : Reached h s) (queue : String) :
    h.pushed queue =
      (h.delivered queue).map Delivery.message ++ s.broker.queues.messages queue := by
  induction hs with
  | start names =>
    have hempty : ∀ (qs : Queues), qs.messages queue = [] →
        (names.foldl (fun qs name => qs.set name []) qs).messages queue = [] := by
      induction names with
      | nil => exact fun _ h => h
      | cons name names ih =>
        intro qs hqs
        refine ih _ ?_
        rw [Queues.messages_set, hqs, ite_self]
    exact (hempty [] rfl).symm
  | @step h s client op hs hc ih =>
    have hstep := (Session.steps_step s client op).messages_eq queue
    rw [History.pushed, History.delivered, ih, List.append_assoc, hstep, hs.registration,
      List.map_append, List.append_assoc]

/-- **Receipts are handed out in the order of their numbers,** without gaps. -/
theorem Session.Steps.receipt_eq (hs : Steps s client op r s') :
    (Exchange.delivery? ⟨client, op, r⟩).toList.map Delivery.receipt =
      (List.range' (s.broker.delivered + 1)
        (Exchange.delivery? ⟨client, op, r⟩).toList.length).map Receipt.ofTag := by
  cases hs with
  | pushed op queue m ms hop hq => rw [Exchange.delivery?_of_push hop]; rfl
  | undeclared op queue hop hq => rw [Exchange.delivery?_error]; rfl
  | _ => rfl

/-- **Tags are given out in turn,** whichever queues the deliveries come from. -/
theorem Reached.receipts (hs : Reached h s) :
    h.handedOut.map Delivery.receipt =
      (List.range' 1 h.handedOut.length).map Receipt.ofTag := by
  induction hs with
  | start names => rfl
  | @step h s client op hs hc ih =>
    have hstep := (Session.steps_step s client op).receipt_eq
    rw [hs.delivered] at hstep
    rw [History.handedOut, List.map_append, ih, hstep, ← List.map_append, List.length_append,
      Nat.add_comm h.handedOut.length 1, List.range'_append_1]

/-- **A client gets what is due.** -/
theorem Reached.result_eq_due (hs : Reached h s)
    (hstep : Session.Steps s client .nextDelivery r s') : r = h.due client := by
  have hreg := hs.registration client
  have hnext : ∀ queue, (h.pushed queue)[(h.delivered queue).length]? =
      (s.broker.queues.messages queue)[0]? := by
    intro queue
    rw [hs.messages queue, List.getElem?_append_right (by simp), List.length_map, Nat.sub_self]
  cases hstep with
  | pushed op queue m ms hop hq => cases hop
  | undeclared op queue hop hq => rcases hop with hop | ⟨m, hop⟩ <;> cases hop
  | unregistered hnone =>
    rw [hnone] at hreg
    rw [History.due, ← hreg]
  | drained queue hsome hempty =>
    rw [hsome] at hreg
    rw [History.due, ← hreg]
    simp [hnext, hempty]
  | delivered queue m rest hsome hq =>
    rw [hsome] at hreg
    rw [History.due, ← hreg]
    simp [hnext, Queues.messages_of_get? hq, hs.delivered]

end

/-- What a queue delivers is among all that is handed out, in its order. -/
theorem History.delivered_sublist (h : History) (queue : String) :
    (h.delivered queue).Sublist h.handedOut := by
  induction h with
  | nil => exact .slnil
  | cons e before ih =>
    refine ih.append ?_
    split
    · exact .refl _
    · exact List.nil_sublist _

/-- **First in, first out.**  Whatever the clients of a broker do, the messages put
into a queue are those delivered from it, in the order of their tags and whoever
drew them, followed by those that wait in it; a client draws from the queue of its
own registration, whatever the others do; and the tags are 1, 2, 3, …, each once. -/
theorem first_in_first_out {h : History} {s : Session} (hs : Reached h s)
    (hn : h.handedOut.length < 2 ^ 64) :
    (∀ queue, h.pushed queue =
      (h.delivered queue).map Delivery.message ++ s.broker.queues.messages queue) ∧
    (∀ queue, (h.delivered queue).Sublist h.handedOut) ∧
    h.handedOut.map (fun d => d.receipt.tag?) = (List.range' 1 h.handedOut.length).map some ∧
    ∀ (after : History) (e : Exchange) (before : History), h = after ++ e :: before →
      e.operation = .nextDelivery → e.result = before.due e.client := by
  refine ⟨hs.messages, h.delivered_sublist, ?_, ?_⟩
  · have htags : h.handedOut.map (fun d => d.receipt.tag?) =
        (h.handedOut.map Delivery.receipt).map Receipt.tag? := by
      rw [List.map_map]
      rfl
    rw [htags, hs.receipts, List.map_map]
    refine List.map_congr_left fun t ht => Receipt.tag?_ofTag ?_
    rw [List.mem_range'_1] at ht
    omega
  · rintro after ⟨client, op, r⟩ before rfl rfl
    obtain ⟨s₀, s₁, hs₀, -, hstep⟩ := hs.exists_step
    exact hs₀.result_eq_due hstep

/-- Two clients of one queue draw its messages in turn; the third one waits. -/
theorem first_in_first_out_of_two_clients : ∃ h s, Reached h s ∧ h.handedOut.length = 2 ∧
    h.pushed "alerts" = [⟨[97], false⟩, ⟨[98], true⟩, ⟨[99], false⟩] ∧
    h.pushed "alerts" =
      (h.delivered "alerts").map Delivery.message ++ s.broker.queues.messages "alerts" := by
  have h₀ := Reached.start ["alerts"]
  have h₁ := (h₀.step 0 .fork (by decide)).step 1 (.startConsuming "alerts") (by decide)
  have h₂ := h₁.step 0 (.send "alerts" [97]) (by decide)
  have h₂ := h₂.step 0 (.redeliver "alerts" [98]) (by decide)
  have h₃ := (h₂.step 1 .nextDelivery (by decide)).step 0 (.startConsuming "alerts") (by decide)
  have h₄ := (h₃.step 0 (.send "alerts" [99]) (by decide)).step 0 .nextDelivery (by decide)
  exact ⟨_, _, h₄, by decide, by decide, (first_in_first_out h₄ (by decide)).1 "alerts"⟩

end Messaging
end Remedy
