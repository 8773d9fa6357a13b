/-
# Executors that are clients of the broker

While it runs an action, an executor may use the broker itself: it sends messages, and it
makes the broker refuse acknowledgments or accept them again.  A `Script` is what it does
until it answers; it may depend on what the broker answers to it.

What is related stays related whatever scripts do (`Outlasts.play`), if it does when one
message is sent and when acknowledgments are refused or accepted; and so two consumers
whose connections are related listen alike (`Outlasts.simulates`).  Nothing that a consumer
or its executor does while listening takes back a registration, a queue or a delivery
(`preserves_later`).
-/

import Remedy.Proofs.Consumer.Simulation

namespace Remedy

namespace Messaging.Connection

/-- The connection once its broker refuses acknowledgments, or accepts them. -/
def refusing (c : Connection) (refuse : Bool) : Connection :=
  { c with broker := { c.broker with refusesAcks := refuse } }

/-- What sending comes to. -/
theorem send_eq (c : Connection) (queue : String) (payload : Payload) (redelivered : Bool) :
    c.send queue payload redelivered =
      match c.broker.queues.get? queue with
      | some ms => (.ok (), { c with broker := { c.broker with
          queues := c.broker.queues.set queue (ms ++ [⟨payload, redelivered⟩]) } })
      | none => (.error (.queueNotFound queue), c) := by
  rw [send, Broker.push]
  cases c.broker.queues.get? queue <;> rfl

end Messaging.Connection

namespace Consumer

open Messaging (Connection Delivery Payload Receipt)
open Work

variable {τ : Type}

/-- What an executor does with the broker, until it answers. -/
inductive Script (τ : Type) where
  | answer (report : Execution.Report τ)
  /-- Sends a message, and goes on as the broker answers. -/
  | send (queue : String) (payload : Payload) (redelivered : Bool)
    (next : Except Messaging.Error Unit → Script τ)
  /-- Has acknowledgments refused, or accepted. -/
  | refuseAcks (refuse : Bool) (next : Script τ)

namespace Script

/-- Goes through a script. -/
def play : Script τ → Connection → Execution.Report (Connection × τ)
  | answer report, c => ⟨report.outcome, (c, report.after), report.events⟩
  | send queue payload redelivered next, c =>
    let (r, c) := c.send queue payload redelivered
    (next r).play c
  | refuseAcks refuse next, c => next.play (c.refusing refuse)

/-- Whether a script makes the broker refuse or accept acknowledgments only as `p` allows. -/
def Sets (p : Bool → Prop) : Script τ → Prop
  | answer _ => True
  | send _ _ _ next => ∀ r, (next r).Sets p
  | refuseAcks refuse next => p refuse ∧ next.Sets p

/-- Every script keeps to what allows everything. -/
theorem sets_true (script : Script τ) : script.Sets fun _ => True := by
  induction script with
  | answer => exact trivial
  | send _ _ _ _ ih => exact ih
  | refuseAcks _ _ ih => exact ⟨trivial, ih⟩

/-- The executor that follows scripts: one for each action and each state of its own. -/
def executor (scripts : Command.Action → τ → Script τ) :
    Execution.Executor (Connection × τ) where
  execute a w := (scripts a w.2).play w.1

end Script

/-- A broker in memory and an executor that follows scripts. -/
def Services.scripted (scripts : Command.Action → τ → Script τ) : Services (Connection × τ) :=
  .beside (Script.executor scripts)

section
variable (scripts : Command.Action → τ → Script τ) {x y : Connection} (v : τ)

/-- A scripted service hands out what its connection does. -/
theorem nextDelivery_scripted {r : Except Messaging.Error (Option Delivery)}
    (h : x.nextDelivery = (r, y)) :
    (Services.scripted scripts).messaging.nextDelivery (x, v) = (r, (y, v)) :=
  nextDelivery_beside (Script.executor scripts) v h

/-- A scripted service acknowledges what its connection does. -/
theorem acknowledge_scripted {receipt : Receipt} {r : Except Messaging.Error Unit}
    (h : x.acknowledge receipt = (r, y)) :
    (Services.scripted scripts).messaging.acknowledge receipt (x, v) = (r, (y, v)) :=
  acknowledge_beside (Script.executor scripts) v h

end

/-- Whether connections are related, beside one and the same state of an executor. -/
def Joined (R : Connection → Connection → Prop) (w w' : Connection × τ) : Prop :=
  R w.1 w'.1 ∧ w.2 = w'.2

/-- Whether connections stay related whatever scripts do to them that set the broker only
as `p` allows. -/
structure Outlasts (p : Bool → Prop) (R : Connection → Connection → Prop) : Prop where
  send : ∀ queue payload redelivered c c', R c c' →
    (c.send queue payload redelivered).1 = (c'.send queue payload redelivered).1 ∧
      R (c.send queue payload redelivered).2 (c'.send queue payload redelivered).2
  refusing : ∀ refuse c c', p refuse → R c c' → R (c.refusing refuse) (c'.refusing refuse)

section
variable {p : Bool → Prop} {R : Connection → Connection → Prop}
  {scripts : Command.Action → τ → Script τ}

/-- **A script goes alike in related connections,** and leaves them related. -/
theorem Outlasts.play (h : Outlasts p R) {script : Script τ} (hs : script.Sets p)
    {c c' : Connection} (hc : R c c') :
    (script.play c).outcome = (script.play c').outcome ∧
      Joined R (script.play c).after (script.play c').after := by
  induction script generalizing c c' with
  | answer report => exact ⟨rfl, hc, rfl⟩
  | send queue payload redelivered next ih =>
    obtain ⟨hanswer, hrest⟩ := h.send queue payload redelivered c c' hc
    simp only [Script.play, ← hanswer]
    exact ih _ (hs _) hrest
  | refuseAcks refuse next ih => exact ih hs.2 (h.refusing refuse c c' hs.1 hc)

/-- **Consumers listen alike through related connections.** -/
theorem Outlasts.simulates (h : Outlasts p R) (hs : ∀ a v, (scripts a v).Sets p)
    (hnext : ∀ c c', R c c' →
      c.nextDelivery.1 = c'.nextDelivery.1 ∧ R c.nextDelivery.2 c'.nextDelivery.2)
    (hack : ∀ (receipt : Receipt) c c', R c c' →
      (c.acknowledge receipt).1 = (c'.acknowledge receipt).1 ∧
        R (c.acknowledge receipt).2 (c'.acknowledge receipt).2) :
    Simulates (Joined R) (.scripted scripts) (.scripted scripts) where
  next_delivery := fun _ _ ⟨hc, hv⟩ => ⟨(hnext _ _ hc).1, (hnext _ _ hc).2, hv⟩
  acknowledge := fun receipt _ _ ⟨hc, hv⟩ =>
    ⟨(hack receipt _ _ hc).1, (hack receipt _ _ hc).2, hv⟩
  execute := by
    rintro a ⟨c, v⟩ ⟨c', _⟩ ⟨hc, rfl⟩
    exact h.play (hs a v) hc

end

/-- **Decisions about one payload are alike** beside related connections. -/
theorem Outlasts.decision_alike {p : Bool → Prop} {R : Connection → Connection → Prop}
    {scripts : Command.Action → τ → Script τ} (h : Outlasts p R)
    (hs : ∀ a v, (scripts a v).Sets p) (c : Consumer) {d d' : Delivery}
    (hd : d.payload = d'.payload) {x x' : Connection} (hx : R x x') (v : τ) :
    (c.decision (.scripted scripts) d (x, v)).outcome =
        (c.decision (.scripted scripts) d' (x', v)).outcome ∧
      Joined R (c.decision (.scripted scripts) d (x, v)).after
        (c.decision (.scripted scripts) d' (x', v)).after ∧
      (c.decision (.scripted scripts) d (x, v)).trace.executions =
        (c.decision (.scripted scripts) d' (x', v)).trace.executions :=
  have hw : Joined R (x, v) (x', v) := ⟨hx, rfl⟩
  Consumer.decision_alike c hd hw fun a => h.play (hs a v) hx

/-! ### What is not taken back -/

/-- Whether a connection may have become another one while a consumer was listening. -/
structure Later (c c' : Connection) : Prop where
  registration : c'.registration = c.registration
  declared : ∀ queue, (c.broker.queues.get? queue).isSome → (c'.broker.queues.get? queue).isSome
  delivered : c.broker.delivered ≤ c'.broker.delivered

namespace Later

variable {c c' c'' : Connection}

theorem refl (c : Connection) : Later c c := ⟨rfl, fun _ => id, Nat.le_refl _⟩

theorem trans (h : Later c c') (h' : Later c' c'') : Later c c'' where
  registration := h'.registration.trans h.registration
  declared queue hq := h'.declared queue (h.declared queue hq)
  delivered := Nat.le_trans h.delivered h'.delivered

/-- A queue whose messages are replaced stays declared, and so do the others. -/
theorem isSome_get?_set {qs : Messaging.Queues} {queue : String}
    (h : (qs.get? queue).isSome) (name : String) (ms : List Messaging.Message) :
    ((qs.set name ms).get? queue).isSome := by
  by_cases hne : queue = name
  · rw [hne, Messaging.Queues.get?_set_self]
    rfl
  · rwa [Messaging.Queues.get?_set_of_ne hne]

/-- Sending goes on from a connection. -/
theorem send (c : Connection) (queue : String) (payload : Payload) (redelivered : Bool) :
    Later c (c.send queue payload redelivered).2 := by
  rw [Connection.send_eq]
  cases c.broker.queues.get? queue with
  | none => exact .refl c
  | some ms => exact ⟨rfl, fun _ h => isSome_get?_set h _ _, Nat.le_refl _⟩

/-- A change of what is refused goes on from a connection. -/
theorem refusing (c : Connection) (refuse : Bool) : Later c (c.refusing refuse) :=
  ⟨rfl, fun _ => id, Nat.le_refl _⟩

/-- Taking a delivery goes on from a connection. -/
theorem nextDelivery (c : Connection) : Later c c.nextDelivery.2 := by
  obtain ⟨b, _ | queue⟩ := c
  · exact .refl _
  · simp only [Connection.nextDelivery, Messaging.Broker.deliver]
    split
    · exact ⟨rfl, fun _ h => isSome_get?_set h _ _, Nat.le_succ _⟩
    · exact .refl _

/-- An acknowledgment goes on from a connection. -/
theorem acknowledge (c : Connection) (receipt : Receipt) :
    Later c (c.acknowledge receipt).2 := by
  show Later c ⟨(c.broker.acknowledge (c.registration.getD "") receipt).2, c.registration⟩
  rw [Messaging.Broker.acknowledge_eq]
  split
  · exact .refl c
  · split
    · exact .refl c
    · split
      · exact ⟨rfl, fun _ => id, Nat.le_refl _⟩
      · exact .refl c

/-- **Playing a script takes nothing back,** by induction on the script. -/
theorem play (script : Script τ) (c : Connection) : Later c (script.play c).after.1 := by
  induction script generalizing c with
  | answer => exact .refl c
  | send queue payload redelivered next ih => exact (send c _ _ _).trans (ih _ _)
  | refuseAcks refuse next ih => exact (refusing c refuse).trans (ih _)

end Later

/-- **Listening takes nothing back.** -/
theorem preserves_later (scripts : Command.Action → τ → Script τ) (c : Connection) :
    Preserves (fun w => Later c w.1) (.scripted scripts) where
  next_delivery w h := h.trans (.nextDelivery w.1)
  acknowledge receipt w h := h.trans (.acknowledge w.1 receipt)
  execute a w h := h.trans (.play (scripts a w.2) w.1)

/-! ### Registering and closing -/

/-- The world in which a consumer is registered. -/
def registered (c : Consumer) (w : Connection × τ) : Connection × τ :=
  (⟨w.1.broker, some c.queue⟩, w.2)

/-- The world after closing. -/
def closed (w : Connection × τ) : Connection × τ := (w.1.close.2, w.2)

section
variable {c : Consumer} {scripts : Command.Action → τ → Script τ} {s : State (Connection × τ)}
  {d : Done (Connection × τ) Unit} {looks : Option Nat}

/-- Registering succeeds just for a queue that is declared. -/
theorem startConsuming_scripted (c : Consumer) (scripts : Command.Action → τ → Script τ)
    (w : Connection × τ) :
    (Services.scripted scripts).messaging.startConsuming c.queue w =
      if (w.1.broker.queues.get? c.queue).isSome then (.ok (), c.registered w)
      else (.error (.queueNotFound c.queue), w) := by
  show ((w.1.startConsuming c.queue).1, ((w.1.startConsuming c.queue).2, w.2)) = _
  rw [Connection.startConsuming]
  cases w.1.broker.queues.get? c.queue <;> rfl

/-- **A run answers what consuming answered,** and closes. -/
theorem done_run_scripted (c : Consumer) (scripts : Command.Action → τ → Script τ) (n : Nat)
    (s : State (Connection × τ)) :
    let d := (c.consume (.scripted scripts) n).done s
    ∃ trace, (c.run (.scripted scripts) n).done s =
        ⟨d.answer, ⟨closed d.after.world, .terminated, d.after.stats⟩, trace⟩ ∧
      trace.executions = d.trace.executions := by
  intro d
  have hclose : (Services.scripted scripts).messaging.close d.after.world =
      (.ok (), closed d.after.world) := rfl
  rw [done_run, done_finish_of_closed hclose]
  exact ⟨_, rfl, by simp [d]⟩

/-- A close never fails here, so a run answers what consuming does. -/
theorem answer_run_scripted (c : Consumer) (scripts : Command.Action → τ → Script τ) (n : Nat)
    (s : State (Connection × τ)) : ((c.run (.scripted scripts) n).done s).answer =
      ((c.consume (.scripted scripts) n).done s).answer := by
  obtain ⟨trace, hrun, -⟩ := done_run_scripted c scripts n s
  rw [hrun]

/-- A run that registers leaves behind what listening does, but for the closing. -/
theorem done_run_of_registered (n : Nat)
    (h : (Services.scripted scripts).messaging.startConsuming c.queue s.world =
      (.ok (), c.registered s.world)) :
    let d := (c.listen (.scripted scripts) n).done { s with world := c.registered s.world }
    ∃ trace, (c.run (.scripted scripts) n).done s =
        ⟨d.answer, ⟨closed d.after.world, .terminated, d.after.stats⟩, trace⟩ ∧
      trace.executions = d.trace.executions := by
  obtain ⟨trace, hrun, hexecutions⟩ := done_run_scripted c scripts n s
  rw [done_consume_of_registered h] at hrun hexecutions
  exact ⟨trace, hrun, hexecutions⟩

/-- How a run may end, by its own answer. -/
theorem ends_scripted_iff : c.Ends (.scripted scripts) looks s d ↔
    ∃ n, d = (c.run (.scripted scripts) n).done s ∧
      (looks = some n ∨ looks = none ∧ ∃ e, d.answer = .error e) := by
  rw [ends_iff]
  refine exists_congr fun n => and_congr_right fun hd => ?_
  rw [hd, answer_run_scripted]

end

end Consumer
end Remedy
