/-
# A broker in memory

A broker holds queues, numbers the deliveries it makes with the tags 1, 2, 3, …
and keeps account of them: a delivery is unacknowledged from when it is made to
when it is acknowledged.  Acknowledging anything else fails, as it does with a
broker that closes the channel on a double acknowledgment.

Any number of clients share a broker.  A client is registered for at most one
queue and draws its deliveries from there; what it sees is a `Connection`.
-/

import Remedy.Messaging.Error
import Remedy.Messaging.Queues

namespace Remedy
namespace Messaging

/-- `InMemoryState`: a broker. -/
structure Broker where
  queues : Queues
  /-- How many deliveries have been made; the tag of the last one. -/
  delivered : Nat
  /-- The tags of the deliveries that wait for their acknowledgment. -/
  unacknowledged : List Nat
  /-- The receipts with which deliveries were acknowledged, in order. -/
  acknowledged : List Receipt
  /-- Acknowledgments fail, as if the channel had been closed. -/
  refusesAcks : Bool
  closeCalls : Nat
  deriving DecidableEq, Repr

namespace Broker

/-- A broker without queues. -/
def empty : Broker := ⟨[], 0, [], [], false, 0⟩

/-- A broker with empty queues of these names. -/
def withQueues (names : List String) : Broker :=
  { empty with queues := names.foldl (fun qs name => qs.set name []) [] }

/-- How many messages wait in a queue. -/
def queueLength (b : Broker) (queue : String) : Nat := (b.queues.messages queue).length

/-- `ensure_queue`: declares a queue; one that is declared already keeps its messages. -/
def declare (b : Broker) (queue : String) : Broker :=
  { b with queues := b.queues.set queue (b.queues.messages queue) }

/-- `push`: puts a message at the end of a queue, which has to be declared. -/
def push (b : Broker) (queue : String) (m : Message) : Except Error Unit × Broker :=
  match b.queues.get? queue with
  | some ms => (.ok (), { b with queues := b.queues.set queue (ms ++ [m]) })
  | none => (.error (.queueNotFound queue), b)

/-- Takes the oldest message of a queue and delivers it, if there is one. -/
def deliver (b : Broker) (queue : String) : Option Delivery × Broker :=
  match b.queues.get? queue with
  | some (m :: rest) =>
    let tag := b.delivered + 1
    (some ⟨Receipt.ofTag tag, m.payload, m.redelivered⟩,
      { b with queues := b.queues.set queue rest, delivered := tag,
               unacknowledged := b.unacknowledged ++ [tag] })
  | _ => (none, b)

/-- Takes a tag out of those that wait for their acknowledgment, and says whether
it was among them. -/
def settle (b : Broker) (tag : Nat) : Bool × Broker :=
  (b.unacknowledged.contains tag,
    { b with unacknowledged := b.unacknowledged.filter (· ≠ tag) })

/-- Acknowledges the delivery that a receipt names; `queue` is the one that
complaints name. -/
def acknowledge (b : Broker) (queue : String) (r : Receipt) : Except Error Unit × Broker :=
  match r.tag? with
  | none => (.error (.invalidReceipt r.text), b)
  | some tag =>
    if b.refusesAcks then (.error (.ack queue tag "channel closed"), b)
    else
      -- the tag is taken out before it is known whether it was there
      match b.settle tag with
      | (true, b) => (.ok (), { b with acknowledged := b.acknowledged ++ [r] })
      | (false, b) => (.error (.ack queue tag "unknown delivery tag"), b)

/-- To take out a tag that does not wait changes nothing. -/
theorem settle_of_not_contains {b : Broker} {tag : Nat}
    (h : b.unacknowledged.contains tag = false) : b.settle tag = (false, b) := by
  have hkeep : b.unacknowledged.filter (· ≠ tag) = b.unacknowledged :=
    List.filter_eq_self.2 fun t ht => decide_eq_true fun he => by
      rw [← he, List.contains_iff_mem.2 ht] at h
      cases h
  rw [settle, h, hkeep]

/-- **What an acknowledgment comes to:** it is refused and nothing changes, or the tag
that it names waits no longer. -/
theorem acknowledge_eq (b : Broker) (queue : String) (r : Receipt) :
    b.acknowledge queue r =
      match r.tag? with
      | none => (.error (.invalidReceipt r.text), b)
      | some tag =>
        if b.refusesAcks then (.error (.ack queue tag "channel closed"), b)
        else if b.unacknowledged.contains tag then
          (.ok (), { b with unacknowledged := b.unacknowledged.filter (· ≠ tag)
                            acknowledged := b.acknowledged ++ [r] })
        else (.error (.ack queue tag "unknown delivery tag"), b) := by
  rw [acknowledge]
  cases r.tag? with
  | none => rfl
  | some tag =>
    cases h : b.unacknowledged.contains tag with
    | true => simp only [settle, h, if_true]
    | false => simp only [settle_of_not_contains h, h, Bool.false_eq_true, if_false]

/-- **A message that is refused changes nothing.** -/
theorem push_of_error {b : Broker} {queue : String} {m : Message} {e : Error}
    (h : (b.push queue m).1 = .error e) : (b.push queue m).2 = b := by
  rw [push] at h ⊢
  split at h
  · cases h
  · rfl

/-- **An acknowledgment that is refused changes nothing.** -/
theorem acknowledge_of_error {b : Broker} {queue : String} {r : Receipt} {e : Error}
    (h : (b.acknowledge queue r).1 = .error e) : (b.acknowledge queue r).2 = b := by
  rw [acknowledge_eq] at h ⊢
  cases ht : r.tag? with
  | none => rfl
  | some tag =>
    rw [ht] at h
    by_cases hf : b.refusesAcks = true
    · simp only [if_pos hf]
    · by_cases hw : b.unacknowledged.contains tag = true
      · simp only [if_neg hf, if_pos hw] at h
        cases h
      · simp only [if_neg hf, if_neg hw]

end Broker

/-- `InMemoryMessagingService`: a broker as one of its clients sees it: with the queue that this
client is registered for. -/
structure Connection where
  broker : Broker
  registration : Option String
  deriving DecidableEq, Repr

namespace Connection

/-- `send_message`: puts a payload into a queue. -/
def send (c : Connection) (queue : String) (payload : Payload) (redelivered : Bool) :
    Except Error Unit × Connection :=
  let (r, b) := c.broker.push queue ⟨payload, redelivered⟩
  (r, { c with broker := b })

/-- `start_consuming`: registers for a queue, which has to be declared. -/
def startConsuming (c : Connection) (queue : String) : Except Error Unit × Connection :=
  match c.broker.queues.get? queue with
  | some _ => (.ok (), { c with registration := some queue })
  | none => (.error (.queueNotFound queue), c)

/-- `next_delivery`: the next delivery from the queue of the registration; nothing when it is
empty. -/
def nextDelivery (c : Connection) : Except Error (Option Delivery) × Connection :=
  match c.registration with
  | none => (.error .notConsuming, c)
  | some queue =>
    let (d, b) := c.broker.deliver queue
    (.ok d, { c with broker := b })

/-- `ack_message`: acknowledges a delivery. -/
def acknowledge (c : Connection) (receipt : Receipt) : Except Error Unit × Connection :=
  let (r, b) := c.broker.acknowledge (c.registration.getD "") receipt
  (r, { c with broker := b })

/-- `health_check`: whether the broker can be reached: one in memory always can. -/
def isHealthy (_ : Connection) : Bool := true

/-- `close`: gives up the registration. -/
def close (c : Connection) : Except Error Unit × Connection :=
  (.ok (), ⟨{ c.broker with closeCalls := c.broker.closeCalls + 1 }, none⟩)

end Connection
end Messaging
end Remedy
