/-
# One delivery after another

A client that draws a delivery and acknowledges it before it draws the next one
leaves the broker as if each message had been taken straight from its queue into the
account (`Broker.serve`): the tags are those that come next, and what others have
not acknowledged is not touched.
-/

import Remedy.Proofs.Messaging.Accounts
import Remedy.Proofs.Messaging.Order

namespace Remedy
namespace Messaging

namespace Queues

variable {qs : Queues} {name : String} {ms : List Message}

/-- A queue that keeps its messages is not changed. -/
theorem set_of_get? (h : qs.get? name = some ms) : qs.set name ms = qs := by
  induction qs with
  | nil => cases h
  | cons q rest ih =>
    obtain ⟨k, old⟩ := q
    rw [get?] at h
    rw [set]
    split at h
    · next hk => rw [if_pos hk, Option.some.inj h]
    · next hk => rw [if_neg hk, ih h]

/-- Of two replacements of one queue the second one counts. -/
theorem set_set (qs : Queues) (name : String) (ms ms' : List Message) :
    (qs.set name ms).set name ms' = qs.set name ms' := by
  induction qs with
  | nil => simp [set]
  | cons q rest ih =>
    obtain ⟨k, old⟩ := q
    by_cases hk : k = name
    · simp [set, hk]
    · simp [set, hk, ih]

end Queues

namespace Broker

/-- The broker after the first messages of a queue have been delivered, each of them
acknowledged before the next one. -/
def serve (b : Broker) (queue : String) (k : Nat) : Broker :=
  { b with
    queues := b.queues.set queue ((b.queues.messages queue).drop k)
    delivered := b.delivered + k
    acknowledged := b.acknowledged ++ (List.range' (b.delivered + 1) k).map Receipt.ofTag }

variable {b : Broker} {queue : String} {m : Message} {ms : List Message}

/-- Serving nothing changes nothing. -/
theorem serve_zero (h : b.queues.get? queue = some ms) : b.serve queue 0 = b := by
  simp [serve, Queues.messages_of_get? h, Queues.set_of_get? h]

/-- Serving some and then some more is serving their sum. -/
theorem serve_serve (b : Broker) (queue : String) (j k : Nat) :
    (b.serve queue j).serve queue k = b.serve queue (j + k) := by
  have htags : List.range' (b.delivered + 1) (j + k) =
      List.range' (b.delivered + 1) j ++ List.range' (b.delivered + j + 1) k := by
    rw [show b.delivered + j + 1 = b.delivered + 1 + j by omega, List.range'_append_1]
  simp [serve, Queues.messages_set, Queues.set_set, List.drop_drop, htags, Nat.add_assoc]

/-- What is left of a queue that has been served. -/
theorem get?_serve (b : Broker) (queue : String) (k : Nat) :
    (b.serve queue k).queues.get? queue = some ((b.queues.messages queue).drop k) :=
  Queues.get?_set_self _ _ _

/-- Whether the broker, which accepts acknowledgments, has given out no tag beyond the
ones that it has counted, and whether the next tags have 64 bits. -/
structure Serves (b : Broker) (k : Nat) : Prop where
  accepts : b.refusesAcks = false
  counted : ∀ t ∈ b.unacknowledged, t ≤ b.delivered
  few : b.delivered + k < 2 ^ 64

/-- A broker that can serve some can serve fewer. -/
theorem Serves.mono {j k : Nat} (h : b.Serves k) (hjk : j ≤ k) : b.Serves j :=
  ⟨h.accepts, h.counted, Nat.lt_of_le_of_lt (Nat.add_le_add_left hjk _) h.few⟩

/-- After serving some a broker can serve the rest. -/
theorem Serves.serve {j k : Nat} (h : b.Serves (j + k)) (queue : String) :
    (b.serve queue j).Serves k where
  accepts := h.accepts
  counted t ht := Nat.le_trans (h.counted t ht) (Nat.le_add_right ..)
  few := by
    have hfew := h.few
    show b.delivered + j + k < 2 ^ 64
    omega

/-- **A broker that somebody has used serves on.** -/
theorem serves_of_reached {h : History} {s : Session} {k : Nat} (hs : Reached h s)
    (hf : s.broker.refusesAcks = false) (hk : h.handedOut.length + k < 2 ^ 64) :
    s.broker.Serves k where
  accepts := hf
  counted t ht := by
    obtain ⟨tags, ha⟩ := hs.accounted
    exact ((ha.mem_iff t).1 (.inr ht)).2
  few := by rwa [hs.delivered]

/-- The delivery that a message is handed out in. -/
def handOut (b : Broker) (m : Message) : Delivery :=
  ⟨.ofTag (b.delivered + 1), m.payload, m.redelivered⟩

/-- A queue that is not empty delivers its first message. -/
theorem deliver_of_get? (h : b.queues.get? queue = some (m :: ms)) :
    b.deliver queue = (some (b.handOut m),
      { b with
        queues := b.queues.set queue ms
        delivered := b.delivered + 1
        unacknowledged := b.unacknowledged ++ [b.delivered + 1] }) := by
  rw [deliver, h]
  rfl

/-- **To draw a delivery and to acknowledge it is to serve one message.** -/
theorem acknowledge_deliver (hb : b.Serves 1) (h : b.queues.get? queue = some (m :: ms))
    (name : String) :
    (b.deliver queue).2.acknowledge name (b.handOut m).receipt =
      (.ok (), b.serve queue 1) := by
  have hfresh : (b.unacknowledged ++ [b.delivered + 1]).filter (· ≠ b.delivered + 1) =
      b.unacknowledged := by
    rw [List.filter_append, List.filter_eq_self.2, List.filter_eq_nil_iff.2, List.append_nil]
    · simp
    · intro t ht
      have := hb.counted t ht
      exact decide_eq_true (by omega)
  have hmem : (b.unacknowledged ++ [b.delivered + 1]).contains (b.delivered + 1) = true :=
    List.contains_iff_mem.2 (List.mem_append_right _ (List.mem_singleton_self _))
  rw [deliver_of_get? h, acknowledge_eq, handOut, Receipt.tag?_ofTag hb.few]
  simp only [hb.accepts, Bool.false_eq_true, if_false, hmem, if_true, hfresh]
  simp [serve, Queues.messages_of_get? h, hb.accepts]

end Broker

/-! ### The same through a connection -/

namespace Connection

variable {b : Broker} {c : Connection} {queue : String} {m : Message} {ms : List Message}
  {r : Receipt} {tag : Nat}

/-- The connection after the delivery with a tag has been acknowledged. -/
def settled (c : Connection) (tag : Nat) (r : Receipt) : Connection :=
  { c with broker := { c.broker with
      unacknowledged := c.broker.unacknowledged.filter (· ≠ tag)
      acknowledged := c.broker.acknowledged ++ [r] } }

/-- The delivery that a receipt names is acknowledged if it waits for that. -/
theorem acknowledge_of_mem (hr : r.tag? = some tag) (hf : c.broker.refusesAcks = false)
    (ht : tag ∈ c.broker.unacknowledged) : c.acknowledge r = (.ok (), c.settled tag r) := by
  simp only [acknowledge, Broker.acknowledge_eq, hr]
  rw [if_neg (by rw [hf]; decide), if_pos (List.contains_iff_mem.2 ht)]
  rfl

/-- The connection after the oldest message of a queue has been handed out, which leaves
these. -/
def handedOut (c : Connection) (queue : String) (rest : List Message) : Connection :=
  { c with broker := { c.broker with
      queues := c.broker.queues.set queue rest
      delivered := c.broker.delivered + 1
      unacknowledged := c.broker.unacknowledged ++ [c.broker.delivered + 1] } }

/-- The oldest message of the queue is drawn. -/
theorem nextDelivery_of_cons (hc : c.registration = some queue)
    (hq : c.broker.queues.get? queue = some (m :: ms)) :
    c.nextDelivery = (.ok (some (c.broker.handOut m)), c.handedOut queue ms) := by
  rw [nextDelivery, hc]
  simp only [Broker.deliver_of_get? hq]
  rw [handedOut, hc]

/-- Nothing is drawn from a queue that is empty, or has never been declared. -/
theorem nextDelivery_of_drained (hc : c.registration = some queue)
    (hq : c.broker.queues.get? queue = none ∨ c.broker.queues.get? queue = some []) :
    c.nextDelivery = (.ok none, c) := by
  rw [nextDelivery, hc]
  obtain hq | hq := hq <;> simp only [Broker.deliver, hq] <;> rw [← hc]

/-- The delivery that was drawn last is acknowledged. -/
theorem acknowledge_handedOut (hb : b.Serves 1) (hq : b.queues.get? queue = some (m :: ms)) :
    (handedOut ⟨b, some queue⟩ queue ms).acknowledge (b.handOut m).receipt =
      (.ok (), ⟨b.serve queue 1, some queue⟩) := by
  have hack := Broker.acknowledge_deliver hb hq queue
  rw [Broker.deliver_of_get? hq] at hack
  show ((Broker.acknowledge _ queue _).1, Connection.mk (Broker.acknowledge _ queue _).2 _) = _
  rw [handedOut, hack]

end Connection
end Messaging
end Remedy
