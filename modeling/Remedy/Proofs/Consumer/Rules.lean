/-
# The rules for the course of a run

On a broker in memory a run can end in three ways once it is registered: it is asked to
stop, it finds its queue empty, or the broker refuses acknowledgments when one is tried.
`Listens` is a calculus of what a run draws, what is sent to its queue meanwhile, what it
answers and where it leaves the broker; its rules look at nothing but the messages in the
queue and whether acknowledgments are refused at that moment, which a command may have
changed.  `Course` adds the registration and the closing.

From the rules it follows what is answered (`Course.answer_cases`), that no message is lost
(`Course.conserves`), and that a failure does not depend on when it is asked to stop
(`Course.asked_late`, `Course.not_asked`).
-/

import Remedy.Proofs.Consumer.Modes

namespace Remedy

/-- The messages in a queue of the broker. -/
def Messaging.Connection.messages (x : Connection) (queue : String) : List Message :=
  x.broker.queues.messages queue

namespace Consumer

open Messaging (Connection Delivery Message Receipt)

variable {τ : Type}

/-! ### Scripts -/

/-- The messages that a script sends to a queue. -/
def Script.sent (queue : String) : Script τ → Connection → List Message
  | answer _, _ => []
  | send name payload redelivered next, x =>
    let (r, y) := x.send name payload redelivered
    (if name = queue ∧ r.toBool then [⟨payload, redelivered⟩] else []) ++ (next r).sent queue y
  | refuseAcks refuse next, x => next.sent queue (x.refusing refuse)

/-- **What a script sends to a queue is put at its end,** and it takes nothing out. -/
theorem Script.messages_play (queue : String) (script : Script τ) (x : Connection) :
    (script.play x).after.1.messages queue = x.messages queue ++ script.sent queue x := by
  induction script generalizing x with
  | answer => exact (List.append_nil _).symm
  | refuseAcks refuse next ih => exact ih _
  | send name payload redelivered next ih =>
    have hsend : (x.send name payload redelivered).2.messages queue = x.messages queue ++
        if name = queue ∧ (x.send name payload redelivered).1.toBool then [⟨payload, redelivered⟩]
        else [] := by
      rw [Connection.send_eq]
      cases hq : x.broker.queues.get? name with
      | none => simp [Connection.messages, Except.toBool]
      | some ms =>
        simp only [Connection.messages, Messaging.Queues.messages_set, Except.toBool, and_true]
        split
        · next h => rw [← h, Messaging.Queues.messages_of_get? hq]
        · rw [List.append_nil]
    rw [Script.play, Script.sent, ih, hsend, List.append_assoc]

/-- Whether two connections are registered and account for their deliveries alike. -/
structure Kept (x y : Connection) : Prop where
  registration : y.registration = x.registration
  delivered : y.broker.delivered = x.broker.delivered
  unacknowledged : y.broker.unacknowledged = x.broker.unacknowledged

/-- **A script leaves the deliveries alone.** -/
theorem Script.kept_play (script : Script τ) (x : Connection) : Kept x (script.play x).after.1 := by
  induction script generalizing x with
  | answer => exact ⟨rfl, rfl, rfl⟩
  | refuseAcks refuse next ih => exact ⟨(ih _).1, (ih _).2, (ih _).3⟩
  | send name payload redelivered next ih =>
    have hsend : Kept x (x.send name payload redelivered).2 := by
      rw [Connection.send_eq]
      cases x.broker.queues.get? name <;> exact ⟨rfl, rfl, rfl⟩
    have hnext := ih (x.send name payload redelivered).1 (x.send name payload redelivered).2
    exact ⟨hnext.registration.trans hsend.registration, hnext.delivered.trans hsend.delivered,
      hnext.unacknowledged.trans hsend.unacknowledged⟩

/-! ### Dealing with a delivery -/

section
variable (c : Consumer) (scripts : Command.Action → τ → Script τ)

/-- The world after the command for a delivery has been run, if there is one. -/
def acted (d : Delivery) (w : Connection × τ) : Connection × τ :=
  match c.dispatcher.resolve d.payload with
  | .ok a => ((scripts a w.2).play w.1).after
  | .error _ => w

/-- What that command sends to the queue of the consumer. -/
def sentBy (d : Delivery) (w : Connection × τ) : List Message :=
  match c.dispatcher.resolve d.payload with
  | .ok a => (scripts a w.2).sent c.queue w.1
  | .error _ => []

/-- What dealing with a delivery comes to. -/
structure Dealing (τ : Type) where
  /-- Where its acknowledgment is tried, and what has been sent before. -/
  tried : Connection × τ
  sentBefore : List Message
  /-- Where it ends if that succeeds, and what has been sent in all. -/
  after : Connection × τ
  sent : List Message

/-- The world after the delivery with a tag has been acknowledged. -/
def settled (w : Connection × τ) (tag : Nat) (r : Receipt) : Connection × τ :=
  (w.1.settled tag r, w.2)

/-- What dealing with a delivery comes to: on receipt the acknowledgment is tried at once,
after execution it is tried when the command has been run. -/
def dealing (d : Delivery) (tag : Nat) (w : Connection × τ) : Dealing τ :=
  match c.ackMode with
  | .onReceipt =>
    let w' := settled w tag d.receipt
    ⟨w, [], c.acted scripts d w', c.sentBy scripts d w'⟩
  | .afterExecution =>
    let w' := c.acted scripts d w
    ⟨w', c.sentBy scripts d w, settled w' tag d.receipt, c.sentBy scripts d w⟩

/-- The world after the first message of the queue has been handed out, which leaves these. -/
def handedOut (w : Connection × τ) (ms : List Message) : Connection × τ :=
  (w.1.handedOut c.queue ms, w.2)

/-- The dealing with the first message of the queue, which leaves these. -/
def firstDealing (w : Connection × τ) (m : Message) (ms : List Message) : Dealing τ :=
  c.dealing scripts (w.1.broker.handOut m) (w.1.broker.delivered + 1) (c.handedOut w ms)

/-- **The courses of listening:** what is drawn, what is sent to the queue meanwhile, what is
answered and where that leaves the world.  The first argument is the number of looks at
which there is no request to shut down. -/
inductive Listens : Option Nat → Connection × τ → List Delivery → List Message →
    Except Messaging.Error Unit → Connection × τ → Prop where
  | asked (w : Connection × τ) : Listens (some 0) w [] [] (.ok ()) w
  | drained {looks : Option Nat} {w : Connection × τ} : looks ≠ some 0 →
    w.1.messages c.queue = [] → Listens looks w [] [] (.error (.connectionClosed c.queue)) w
  | refused {looks : Option Nat} {w : Connection × τ} {m : Message} {ms : List Message} :
    looks ≠ some 0 → w.1.messages c.queue = m :: ms →
    (c.firstDealing scripts w m ms).tried.1.broker.refusesAcks = true →
    Listens looks w [w.1.broker.handOut m] (c.firstDealing scripts w m ms).sentBefore
      (.error (.ack c.queue (w.1.broker.delivered + 1) "channel closed"))
      (c.firstDealing scripts w m ms).tried
  | handled {looks : Option Nat} {w : Connection × τ} {m : Message} {ms : List Message}
    {drawn : List Delivery} {sent : List Message} {r : Except Messaging.Error Unit}
    {w' : Connection × τ} :
    looks ≠ some 0 → w.1.messages c.queue = m :: ms →
    (c.firstDealing scripts w m ms).tried.1.broker.refusesAcks = false →
    Listens (looks.map (· - 1)) (c.firstDealing scripts w m ms).after drawn sent r w' →
    Listens looks w (w.1.broker.handOut m :: drawn) ((c.firstDealing scripts w m ms).sent ++ sent)
      r w'

/-- **The courses of a run:** it fails to register, or it listens and closes. -/
inductive Course (looks : Option Nat) (w : Connection × τ) : List Delivery → List Message →
    Except Messaging.Error Unit → Connection × τ → Prop where
  | undeclared : w.1.broker.queues.get? c.queue = none →
    Course looks w [] [] (.error (.queueNotFound c.queue)) (closed w)
  | registered {drawn : List Delivery} {sent : List Message} {r : Except Messaging.Error Unit}
    {w' : Connection × τ} : (w.1.broker.queues.get? c.queue).isSome →
    Listens c scripts looks (c.registered w) drawn sent r w' →
    Course looks w drawn sent r (closed w')

end

/-! ### What becomes of the broker -/

section
variable (c : Consumer) (scripts : Command.Action → τ → Script τ)

/-- What a script does takes nothing back that has been handed out. -/
theorem kept_acted (d : Delivery) (w : Connection × τ) : Kept w.1 (c.acted scripts d w).1 := by
  unfold acted
  cases c.dispatcher.resolve d.payload with
  | ok a => exact Script.kept_play ..
  | error reason => exact ⟨rfl, rfl, rfl⟩

/-- What a script sends to the queue comes after what waits there. -/
theorem messages_acted (d : Delivery) (w : Connection × τ) :
    (c.acted scripts d w).1.messages c.queue =
      w.1.messages c.queue ++ c.sentBy scripts d w := by
  unfold acted sentBy
  cases c.dispatcher.resolve d.payload with
  | ok a => exact Script.messages_play ..
  | error reason => exact (List.append_nil _).symm

/-- **Dealing with a delivery keeps the registration and gives out no tags.** -/
theorem kept_dealing (d : Delivery) (tag : Nat) (w : Connection × τ) :
    Kept w.1 (c.dealing scripts d tag w).tried.1 ∧
      (c.dealing scripts d tag w).after.1.registration = w.1.registration ∧
      (c.dealing scripts d tag w).after.1.broker.delivered = w.1.broker.delivered := by
  unfold dealing
  cases c.ackMode with
  | onReceipt =>
    have h := kept_acted c scripts d (settled w tag d.receipt)
    exact ⟨⟨rfl, rfl, rfl⟩, h.registration, h.delivered⟩
  | afterExecution =>
    have h := kept_acted c scripts d w
    exact ⟨h, h.registration, h.delivered⟩

/-- The queue while a delivery is dealt with: what the script sends is added at its end. -/
theorem messages_dealing (d : Delivery) (tag : Nat) (w : Connection × τ) :
    (c.dealing scripts d tag w).tried.1.messages c.queue =
        w.1.messages c.queue ++ (c.dealing scripts d tag w).sentBefore ∧
      (c.dealing scripts d tag w).after.1.messages c.queue =
        w.1.messages c.queue ++ (c.dealing scripts d tag w).sent := by
  unfold dealing
  cases c.ackMode with
  | onReceipt => exact ⟨(List.append_nil _).symm, messages_acted c scripts d _⟩
  | afterExecution => exact ⟨messages_acted c scripts d w, messages_acted c scripts d w⟩

/-- The registration is kept by the first dealing, which gives out one tag. -/
theorem kept_firstDealing (w : Connection × τ) (m : Message) (ms : List Message) :
    (c.firstDealing scripts w m ms).tried.1.broker.delivered = w.1.broker.delivered + 1 ∧
      (c.firstDealing scripts w m ms).after.1.registration = w.1.registration ∧
      (c.firstDealing scripts w m ms).after.1.broker.delivered = w.1.broker.delivered + 1 := by
  obtain ⟨htried, hafter⟩ := kept_dealing c scripts (w.1.broker.handOut m)
    (w.1.broker.delivered + 1) (c.handedOut w ms)
  exact ⟨htried.delivered, hafter⟩

end

/-! ### What follows from the rules -/

section
variable {c : Consumer} {scripts : Command.Action → τ → Script τ} {looks : Option Nat}
  {w w' : Connection × τ} {drawn : List Delivery} {sent : List Message}
  {r : Except Messaging.Error Unit}

/-- As many tags are given out as deliveries are drawn. -/
theorem Listens.delivered (h : Listens c scripts looks w drawn sent r w') :
    w'.1.broker.delivered = w.1.broker.delivered + drawn.length := by
  induction h with
  | asked w => rfl
  | drained => rfl
  | refused => exact (kept_firstDealing ..).1
  | handled _ _ _ _ ih =>
    rw [ih, (kept_firstDealing ..).2.2, List.length_cons]
    omega

/-- A failure that comes while nobody asks to stop comes also if that is asked later. -/
theorem Listens.asked_late (h : Listens c scripts looks w drawn sent r w') :
    looks = none → ∃ n, Listens c scripts (some n) w drawn sent r w' ∧ ∃ e, r = .error e := by
  induction h with
  | asked w => exact fun hnone => by cases hnone
  | drained _ hq => exact fun _ => ⟨1, .drained (by simp) hq, _, rfl⟩
  | refused _ hq hf => exact fun _ => ⟨1, .refused (by simp) hq hf, _, rfl⟩
  | handled _ hq hf _ ih =>
    rintro rfl
    obtain ⟨n, hrest, he⟩ := ih rfl
    exact ⟨n + 1, .handled (by simp) hq hf hrest, he⟩

/-- A failure that comes first comes also if nobody asks to stop. -/
theorem Listens.not_asked (h : Listens c scripts looks w drawn sent r w') :
    (∃ e, r = .error e) → Listens c scripts none w drawn sent r w' := by
  induction h with
  | asked w => exact fun ⟨e, he⟩ => by cases he
  | drained _ hq => exact fun _ => .drained (by simp) hq
  | refused _ hq hf => exact fun _ => .refused (by simp) hq hf
  | handled _ hq hf _ ih => exact fun he => .handled (by simp) hq hf (ih he)

/-- **No message is lost:** what is drawn and what is left are what was there and what was
sent, in order. -/
theorem Listens.conserves (h : Listens c scripts looks w drawn sent r w') :
    drawn.map Delivery.message ++ w'.1.messages c.queue = w.1.messages c.queue ++ sent := by
  have hleft : ∀ (w : Connection × τ) ms, (c.handedOut w ms).1.messages c.queue = ms :=
    fun w ms => Messaging.Queues.messages_of_get? (Messaging.Queues.get?_set_self ..)
  induction h with
  | asked w => exact (List.append_nil _).symm
  | drained => exact (List.append_nil _).symm
  | refused _ hq _ =>
    rw [firstDealing, (messages_dealing ..).1, hleft, hq]
    rfl
  | handled _ hq _ _ ih =>
    rw [firstDealing, (messages_dealing ..).2, hleft] at ih
    rw [List.map_cons, List.cons_append, ih, hq, List.append_assoc]
    rfl

/-- **The answers of listening:** it is asked to stop after so many deliveries, or the queue
is left empty, or the last delivery is the one whose acknowledgment is refused. -/
theorem Listens.answer_cases (h : Listens c scripts looks w drawn sent r w') :
    (r = .ok () ∧ looks = some drawn.length) ∨
      (r = .error (.connectionClosed c.queue) ∧ w'.1.messages c.queue = []) ∨
      ∃ tag, r = .error (.ack c.queue tag "channel closed") ∧
        drawn.getLast?.map Delivery.receipt = some (.ofTag tag) ∧
        w'.1.broker.refusesAcks = true := by
  induction h with
  | asked w => exact .inl ⟨rfl, rfl⟩
  | drained _ hq => exact .inr (.inl ⟨rfl, hq⟩)
  | refused _ _ hf => exact .inr (.inr ⟨_, rfl, rfl, hf⟩)
  | @handled looks _ _ _ drawn _ _ _ hlook _ _ _ ih =>
    refine ih.imp (fun ⟨hr, hlooks⟩ => ⟨hr, ?_⟩)
      (.imp_right fun ⟨tag, hr, hlast, hf⟩ => ⟨tag, hr, ?_, hf⟩)
    · -- the look at this delivery is one of those that are counted
      obtain ⟨n, rfl, hn⟩ := Option.map_eq_some_iff.1 hlooks
      obtain ⟨n, rfl⟩ := Nat.exists_eq_succ_of_ne_zero fun h => hlook (congrArg some h)
      rw [List.length_cons, ← hn]
      rfl
    · obtain ⟨d, hd, -⟩ := Option.map_eq_some_iff.1 hlast
      rwa [List.getLast?_cons, hd, Option.getD_some, ← hd]

/-- A course that nobody asks to end ends in an error, and is one that is asked late enough. -/
theorem Course.asked_late (h : Course c scripts none w drawn sent r w') :
    ∃ n, Course c scripts (some n) w drawn sent r w' ∧ ∃ e, r = .error e := by
  cases h with
  | undeclared hq => exact ⟨0, .undeclared hq, _, rfl⟩
  | registered hq hlistens =>
    obtain ⟨n, hlate, he⟩ := hlistens.asked_late rfl
    exact ⟨n, .registered hq hlate, he⟩

/-- A course that ends in an error is one that nobody asks to end. -/
theorem Course.not_asked (h : Course c scripts looks w drawn sent r w')
    (he : ∃ e, r = .error e) : Course c scripts none w drawn sent r w' := by
  cases h with
  | undeclared hq => exact .undeclared hq
  | registered hq hlistens => exact .registered hq (hlistens.not_asked he)

/-- Where the queue is not declared that is the answer. -/
theorem Course.answer_of_undeclared (h : Course c scripts looks w drawn sent r w')
    (hq : w.1.broker.queues.get? c.queue = none) : r = .error (.queueNotFound c.queue) := by
  cases h with
  | undeclared => rfl
  | registered hsome =>
    rw [hq] at hsome
    cases hsome

/-- **The answers of a course:** it has been asked to end, or the queue is empty, or the last
acknowledgment has been refused. -/
theorem Course.answer_cases (h : Course c scripts looks w drawn sent r w')
    (hq : (w.1.broker.queues.get? c.queue).isSome) :
    (r = .ok () ∧ looks = some drawn.length) ∨
      (r = .error (.connectionClosed c.queue) ∧ w'.1.messages c.queue = []) ∨
      ∃ tag, r = .error (.ack c.queue tag "channel closed") ∧
        drawn.getLast?.map Delivery.receipt = some (.ofTag tag) ∧
        w'.1.broker.refusesAcks = true := by
  cases h with
  | undeclared hnone =>
    rw [hnone] at hq
    cases hq
  | registered _ hlistens => exact hlistens.answer_cases

/-- **Nothing is lost in a course:** what is drawn and what waits at its end is what waited before
and what was sent. -/
theorem Course.conserves (h : Course c scripts looks w drawn sent r w') :
    drawn.map Delivery.message ++ w'.1.messages c.queue = w.1.messages c.queue ++ sent := by
  cases h with
  | undeclared => exact (List.append_nil _).symm
  | registered _ hlistens => exact hlistens.conserves

end

end Consumer
end Remedy
