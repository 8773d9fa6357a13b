/-
# Histories of a broker

A `History` is what the clients of a broker have done, with what came of it.  It
alone tells what has been put into a queue, what has been delivered from it, which
queue a client is registered for and which receipts have been accepted.  `Reached`
says which histories there are and in which session each of them ends.

`Steps` says once what an operation can do to a session; whatever is kept by each
of its cases is kept by every operation.
-/

import Remedy.Messaging.Session
import Remedy.Proofs.Messaging.Tags

namespace Remedy
namespace Messaging

/-- The message that a delivery hands out. -/
def Delivery.message (d : Delivery) : Message := ⟨d.payload, d.redelivered⟩

/-- The queue and the message of an operation that puts a message into a queue. -/
def Operation.push? : Operation → Option (String × Message)
  | .send queue payload => some (queue, ⟨payload, false⟩)
  | .redeliver queue payload => some (queue, ⟨payload, true⟩)
  | _ => none

/-- An operation of a client and what came of it. -/
structure Exchange where
  client : Nat
  operation : Operation
  result : Except Error Answer

namespace Exchange

/-- The messages that an exchange puts into a queue. -/
def pushed (queue : String) (e : Exchange) : List Message :=
  match e.operation.push?, e.result with
  | some (name, m), .ok _ => if name = queue then [m] else []
  | _, _ => []

/-- The delivery that an exchange hands out. -/
def delivery? : Exchange → Option Delivery
  | ⟨_, .nextDelivery, .ok (.delivery d)⟩ => d
  | _ => none

/-- The receipt that an exchange acknowledges. -/
def receipt? : Exchange → Option Receipt
  | ⟨_, .acknowledge r, .ok _⟩ => some r
  | _ => none

/-- What becomes of the registration of the client. -/
def register (old : Option String) : Exchange → Option String
  | ⟨_, .startConsuming queue, .ok _⟩ => some queue
  | ⟨_, .close, .ok _⟩ => none
  | _ => old

section
variable {client : Nat} {op : Operation} {r : Except Error Answer} {e : Error} {queue : String}
  {p : String × Message} {old : Option String}

/-! An operation that fails leaves nothing in any of these. -/

@[simp] theorem pushed_error : pushed queue ⟨client, op, .error e⟩ = [] := by
  unfold pushed
  split <;> simp_all

@[simp] theorem delivery?_error : delivery? ⟨client, op, .error e⟩ = none := by
  cases op <;> rfl

@[simp] theorem receipt?_error : receipt? ⟨client, op, .error e⟩ = none := by
  cases op <;> rfl

@[simp] theorem register_error : register old ⟨client, op, .error e⟩ = old := by
  cases op <;> rfl

/-! An operation that puts a message into a queue does nothing else. -/

/-- Putting a message into a queue hands out nothing. -/
theorem delivery?_of_push (h : op.push? = some p) : delivery? ⟨client, op, r⟩ = none := by
  cases op <;> first | rfl | cases h

/-- Putting a message into a queue acknowledges nothing. -/
theorem receipt?_of_push (h : op.push? = some p) : receipt? ⟨client, op, r⟩ = none := by
  cases op <;> first | rfl | cases h

/-- Putting a message into a queue leaves the registration as it is. -/
theorem register_of_push (h : op.push? = some p) : register old ⟨client, op, r⟩ = old := by
  cases op <;> first | rfl | cases h

end

end Exchange

/-- What the clients of a broker have done, the latest first. -/
abbrev History := List Exchange

namespace History

/-- The messages that have been put into a queue, in order. -/
def pushed (queue : String) : History → List Message
  | [] => []
  | e :: before => pushed queue before ++ e.pushed queue

/-- The queue that a client has registered for last, unless it has closed since. -/
def registration (client : Nat) : History → Option String
  | [] => none
  | e :: before =>
    if e.client = client then e.register (registration client before)
    else registration client before

/-- All deliveries, in order. -/
def handedOut : History → List Delivery
  | [] => []
  | e :: before => handedOut before ++ e.delivery?.toList

/-- The deliveries to clients that were registered for a queue, in order. -/
def delivered (queue : String) : History → List Delivery
  | [] => []
  | e :: before =>
    delivered queue before ++
      if registration e.client before = some queue then e.delivery?.toList else []

/-- The receipts that have been accepted, in order. -/
def acknowledged : History → List Receipt
  | [] => []
  | e :: before => acknowledged before ++ e.receipt?.toList

end History

/-- The histories of a broker that starts with some empty queues and one client,
with the sessions they end in. -/
inductive Reached : History → Session → Prop where
  | start (names : List String) : Reached [] (.ofBroker (.withQueues names))
  | step {h : History} {s : Session} (client : Nat) (op : Operation) :
    Reached h s → client < s.clients.length →
      Reached (⟨client, op, (s.step client op).1⟩ :: h) (s.step client op).2

namespace Session

/-- What an operation of a client can come to, and in which session. -/
inductive Steps (s : Session) (client : Nat) :
    Operation → Except Error Answer → Session → Prop where
  | forked :
    Steps s client .fork (.ok (.client s.clients.length)) ⟨s.broker, s.clients ++ [none]⟩
  | declared (queue : String) :
    Steps s client (.declare queue) (.ok .done) ⟨s.broker.declare queue, s.clients⟩
  | pushed (op : Operation) (queue : String) (m : Message) (ms : List Message) :
    op.push? = some (queue, m) → s.broker.queues.get? queue = some ms →
      Steps s client op (.ok .done)
        ⟨{ s.broker with queues := s.broker.queues.set queue (ms ++ [m]) }, s.clients⟩
  | registered (queue : String) (ms : List Message) :
    s.broker.queues.get? queue = some ms →
      Steps s client (.startConsuming queue) (.ok .done)
        ⟨s.broker, s.clients.set client (some queue)⟩
  | undeclared (op : Operation) (queue : String) :
    (op = .startConsuming queue ∨ ∃ m, op.push? = some (queue, m)) →
      s.broker.queues.get? queue = none → Steps s client op (.error (.queueNotFound queue)) s
  | unregistered :
    (s.connection client).registration = none →
      Steps s client .nextDelivery (.error .notConsuming) s
  | drained (queue : String) :
    (s.connection client).registration = some queue → s.broker.queues.messages queue = [] →
      Steps s client .nextDelivery (.ok (.delivery none)) s
  | delivered (queue : String) (m : Message) (rest : List Message) :
    (s.connection client).registration = some queue →
      s.broker.queues.get? queue = some (m :: rest) →
      Steps s client .nextDelivery
        (.ok (.delivery (some ⟨.ofTag (s.broker.delivered + 1), m.payload, m.redelivered⟩)))
        ⟨{ s.broker with
            queues := s.broker.queues.set queue rest
            delivered := s.broker.delivered + 1
            unacknowledged := s.broker.unacknowledged ++ [s.broker.delivered + 1] }, s.clients⟩
  | acknowledged (r : Receipt) (tag : Nat) :
    s.broker.refusesAcks = false → tag ∈ s.broker.unacknowledged → r.tag? = some tag →
      Steps s client (.acknowledge r) (.ok .done)
        ⟨{ s.broker with
            unacknowledged := s.broker.unacknowledged.filter (· ≠ tag)
            acknowledged := s.broker.acknowledged ++ [r] }, s.clients⟩
  | refused (r : Receipt) (e : Error) :
    ¬(s.broker.refusesAcks = false ∧ ∃ tag ∈ s.broker.unacknowledged, r.tag? = some tag) →
      Steps s client (.acknowledge r) (.error e) s
  | refusing (refuse : Bool) :
    Steps s client (.refuseAcks refuse) (.ok .done)
      ⟨{ s.broker with refusesAcks := refuse }, s.clients⟩
  | checked : Steps s client .checkHealth (.ok (.health true)) s
  | closed :
    Steps s client .close (.ok .done)
      ⟨{ s.broker with closeCalls := s.broker.closeCalls + 1 }, s.clients.set client none⟩

variable (s : Session) (client : Nat)

/-- A client that only changes the broker keeps its registration. -/
theorem update_connection (b : Broker) :
    s.update client ⟨b, (s.connection client).registration⟩ = ⟨b, s.clients⟩ := by
  simp only [update, connection, mk.injEq, true_and]
  refine List.ext_getElem? fun i => ?_
  rw [List.getElem?_set]
  split
  · next h =>
    subst h
    split
    · next hlt => rw [List.getElem?_eq_getElem hlt, Option.getD_some]
    · next hge => rw [List.getElem?_eq_none (Nat.le_of_not_lt hge)]
  · rfl

/-- What an operation comes to that keeps the registration of the client. -/
theorem step_of_perform (op : Operation) {r : Except Error Answer} {b : Broker}
    (h : perform (s.connection client) op = (r, ⟨b, (s.connection client).registration⟩))
    (hop : op ≠ .fork) : s.step client op = (r, ⟨b, s.clients⟩) := by
  have hstep : s.step client op =
      ((perform (s.connection client) op).1,
        s.update client (perform (s.connection client) op).2) := by
    cases op with
    | fork => exact absurd rfl hop
    | _ => rfl
  rw [hstep, h, update_connection]

/-- Putting a message into a queue is one of the cases. -/
theorem steps_push {op : Operation} {queue : String} {m : Message}
    (hop : op.push? = some (queue, m))
    (hp : perform (s.connection client) op =
      let (r, c) := (s.connection client).send queue m.payload m.redelivered
      (r.map fun _ => .done, c)) :
    Steps s client op (s.step client op).1 (s.step client op).2 := by
  have hne : op ≠ .fork := fun h => by rw [h] at hop; cases hop
  have hb : (s.connection client).broker = s.broker := rfl
  simp only [Connection.send, Broker.push, hb] at hp
  cases hq : s.broker.queues.get? queue with
  | none =>
    rw [hq] at hp
    rw [step_of_perform s client _ (b := s.broker) hp hne]
    exact .undeclared op queue (.inr ⟨m, hop⟩) hq
  | some ms =>
    rw [hq] at hp
    rw [step_of_perform s client _ hp hne]
    exact .pushed op queue m ms hop hq

/-- A registration is one of the cases. -/
theorem steps_startConsuming (queue : String) :
    Steps s client (.startConsuming queue) (s.step client (.startConsuming queue)).1
      (s.step client (.startConsuming queue)).2 := by
  have hb : (s.connection client).broker = s.broker := rfl
  cases hq : s.broker.queues.get? queue with
  | none =>
    have hp : perform (s.connection client) (.startConsuming queue) =
        (.error (.queueNotFound queue), ⟨s.broker, (s.connection client).registration⟩) := by
      simp only [perform, Connection.startConsuming, hb, hq, Except.map]
      rfl
    rw [step_of_perform s client _ hp (by simp)]
    exact .undeclared _ queue (.inl rfl) hq
  | some ms =>
    have hp : perform (s.connection client) (.startConsuming queue) =
        (.ok .done, ⟨s.broker, some queue⟩) := by
      simp only [perform, Connection.startConsuming, hb, hq, Except.map]
    have hstep : s.step client (.startConsuming queue) =
        (.ok .done, ⟨s.broker, s.clients.set client (some queue)⟩) := by
      simp only [step, hp, update]
    rw [hstep]
    exact .registered queue ms hq

/-- The next delivery is one of the cases. -/
theorem steps_nextDelivery :
    Steps s client .nextDelivery (s.step client .nextDelivery).1
      (s.step client .nextDelivery).2 := by
  have hb : (s.connection client).broker = s.broker := rfl
  cases hr : (s.connection client).registration with
  | none =>
    have hp : perform (s.connection client) .nextDelivery =
        (.error .notConsuming, ⟨s.broker, (s.connection client).registration⟩) := by
      simp only [perform, Connection.nextDelivery, hr, Except.map]
      rw [← hr]
      rfl
    rw [step_of_perform s client _ hp (by simp)]
    exact .unregistered hr
  | some queue =>
    have hp : perform (s.connection client) .nextDelivery =
        (.ok (.delivery (s.broker.deliver queue).1),
          ⟨(s.broker.deliver queue).2, (s.connection client).registration⟩) := by
      simp only [perform, Connection.nextDelivery, hr, Except.map, hb]
    rw [step_of_perform s client _ hp (by simp)]
    rcases hq : s.broker.queues.get? queue with _ | _ | ⟨m, rest⟩
    · rw [Broker.deliver, hq]
      exact .drained queue hr (by rw [Queues.messages, hq, Option.getD_none])
    · rw [Broker.deliver, hq]
      exact .drained queue hr (by rw [Queues.messages, hq, Option.getD_some])
    · rw [Broker.deliver, hq]
      exact .delivered queue m rest hr hq

/-- An acknowledgment is one of the cases, by what its receipt names and what the broker holds. -/
theorem steps_acknowledge (r : Receipt) :
    Steps s client (.acknowledge r) (s.step client (.acknowledge r)).1
      (s.step client (.acknowledge r)).2 := by
  have hp : perform (s.connection client) (.acknowledge r) =
      ((s.broker.acknowledge ((s.connection client).registration.getD "") r).1.map fun _ => .done,
        ⟨(s.broker.acknowledge ((s.connection client).registration.getD "") r).2,
          (s.connection client).registration⟩) := rfl
  rw [Broker.acknowledge_eq] at hp
  cases ht : r.tag? with
  | none =>
    rw [ht] at hp
    rw [step_of_perform s client _ (b := s.broker) hp (by simp)]
    refine .refused r _ ?_
    rintro ⟨-, t, -, h⟩
    rw [ht] at h
    cases h
  | some tag =>
    by_cases hf : s.broker.refusesAcks = true
    · simp only [ht, if_pos hf] at hp
      rw [step_of_perform s client _ (b := s.broker) hp (by simp)]
      refine .refused r _ ?_
      rintro ⟨h, -⟩
      rw [hf] at h
      cases h
    · by_cases hmem : tag ∈ s.broker.unacknowledged
      · simp only [ht, if_neg hf, if_pos (List.contains_iff_mem.2 hmem)] at hp
        rw [step_of_perform s client _ hp (by simp)]
        exact .acknowledged r tag (Bool.eq_false_iff.2 hf) hmem ht
      · simp only [ht, if_neg hf, if_neg (mt List.contains_iff_mem.1 hmem)] at hp
        rw [step_of_perform s client _ (b := s.broker) hp (by simp)]
        refine .refused r _ ?_
        rintro ⟨-, t, hm, h⟩
        rw [ht, Option.some.injEq] at h
        exact hmem (h ▸ hm)

/-- **Every operation is one of the cases of `Steps`.** -/
theorem steps_step (op : Operation) :
    Steps s client op (s.step client op).1 (s.step client op).2 := by
  cases op with
  | fork => exact .forked
  | declare queue =>
    rw [step_of_perform s client (.declare queue) rfl (by simp)]
    exact .declared queue
  | send queue payload => exact steps_push s client rfl rfl
  | redeliver queue payload => exact steps_push s client rfl rfl
  | startConsuming queue => exact steps_startConsuming s client queue
  | nextDelivery => exact steps_nextDelivery s client
  | acknowledge r => exact steps_acknowledge s client r
  | refuseAcks refuse =>
    rw [step_of_perform s client (.refuseAcks refuse) rfl (by simp)]
    exact .refusing refuse
  | checkHealth =>
    rw [step_of_perform s client .checkHealth (b := s.broker) rfl (by simp)]
    exact .checked
  | close => exact .closed

end Session

/-- **Every exchange of a history is an operation in an earlier session.** -/
theorem Reached.exists_step {after before : History} {e : Exchange} {s : Session}
    (hs : Reached (after ++ e :: before) s) :
    ∃ s₀ s₁, Reached before s₀ ∧ e.client < s₀.clients.length ∧
      Session.Steps s₀ e.client e.operation e.result s₁ := by
  generalize hh : after ++ e :: before = h at hs
  induction hs generalizing after with
  | start names => simp at hh
  | step client op hs hc ih =>
    rcases after with _ | ⟨last, after⟩
    · obtain ⟨rfl, rfl⟩ := List.cons.inj hh
      exact ⟨_, _, hs, hc, Session.steps_step _ client op⟩
    · exact ih (List.cons.inj hh).2

section
variable {h : History} {s s' : Session} {client : Nat} {op : Operation}
  {r : Except Error Answer}

/-! ### What a session knows of its history -/

/-- **A registration changes with the client's own exchanges only.** -/
theorem Session.Steps.registration_eq (hs : Steps s client op r s') (hc : client < s.clients.length)
    (other : Nat) :
    (s'.connection other).registration =
      if client = other then Exchange.register (s.connection other).registration ⟨client, op, r⟩
      else (s.connection other).registration := by
  have hset : ∀ new, ((s.clients.set client new)[other]?).getD none =
      if client = other then new else (s.clients[other]?).getD none := by
    intro new
    rw [List.getElem?_set, if_pos hc]
    split <;> rfl
  cases hs with
  | forked =>
    have hfork : ((s.clients ++ [none])[other]?).getD none = (s.clients[other]?).getD none := by
      rw [List.getElem?_append]
      split
      · rfl
      · next hlt =>
        rw [List.getElem?_eq_none (Nat.le_of_not_lt hlt)]
        cases other - s.clients.length <;> rfl
    simp only [connection, hfork, Exchange.register, ite_self]
  | registered queue ms hq => simp only [connection, hset, Exchange.register]
  | closed => simp only [connection, hset, Exchange.register]
  | pushed op queue m ms hop hq => rw [Exchange.register_of_push hop, ite_self]; rfl
  | undeclared op queue hop hq => rw [Exchange.register_error, ite_self]
  | _ => exact (ite_self _).symm

/-- **A client is registered for what it has registered for last.** -/
theorem Reached.registration (hs : Reached h s) :
    ∀ client, (s.connection client).registration = h.registration client := by
  induction hs with
  | start names =>
    intro client
    cases client <;> rfl
  | step client op hs hc ih =>
    intro other
    rw [(Session.steps_step _ client op).registration_eq hc, ih, History.registration]

/-- **What is acknowledged grows by the receipt that is accepted.** -/
theorem Session.Steps.acknowledged_eq (hs : Steps s client op r s') :
    s'.broker.acknowledged =
      s.broker.acknowledged ++ (Exchange.receipt? ⟨client, op, r⟩).toList := by
  cases hs with
  | acknowledged r tag hf hmem ht => rfl
  | pushed op queue m ms hop hq =>
    rw [Exchange.receipt?_of_push hop]
    exact (List.append_nil _).symm
  | undeclared op queue hop hq =>
    rw [Exchange.receipt?_error]
    exact (List.append_nil _).symm
  | _ => exact (List.append_nil _).symm

/-- **A broker keeps the receipts that it has accepted.** -/
theorem Reached.acknowledged (hs : Reached h s) : s.broker.acknowledged = h.acknowledged := by
  induction hs with
  | start names => rfl
  | step client op hs hc ih =>
    rw [(Session.steps_step _ client op).acknowledged_eq, ih, History.acknowledged]

/-- **What is delivered is counted.** -/
theorem Session.Steps.delivered_eq (hs : Steps s client op r s') :
    s'.broker.delivered =
      s.broker.delivered + (Exchange.delivery? ⟨client, op, r⟩).toList.length := by
  cases hs with
  | pushed op queue m ms hop hq => rw [Exchange.delivery?_of_push hop]; rfl
  | undeclared op queue hop hq => rw [Exchange.delivery?_error]; rfl
  | _ => rfl

/-- **A broker counts its deliveries.** -/
theorem Reached.delivered (hs : Reached h s) : s.broker.delivered = h.handedOut.length := by
  induction hs with
  | start names => rfl
  | step client op hs hc ih =>
    rw [(Session.steps_step _ client op).delivered_eq, ih, History.handedOut, List.length_append]

end
end Messaging
end Remedy
