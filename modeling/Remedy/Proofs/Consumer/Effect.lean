/-
# The effect of a run

Against a broker in memory that accepts acknowledgments, and with an executor that
leaves the broker alone, nothing can fail: a run deals with one message of its queue
after another until it is asked to stop or the queue is empty.

What the executor does is said without the consumer: `Executor.answers` runs it over
a list of actions, through the states that it goes through by itself.  `Deals` says
what dealing with some messages comes to, for the broker, for the executor and for
the counts; it composes (`Deals.append`), and so a run over `k` messages is `k` times
what is done for one.
-/

import Remedy.Proofs.Consumer.Listening
import Remedy.Proofs.Messaging.Serving

namespace Remedy

namespace Execution

variable {τ : Type}

/-- The answers of an executor to some actions, one after the other, each with its
action. -/
def Executor.answers (x : Executor τ) :
    List Command.Action → τ → List (Command.Action × Except Failure Result)
  | [], _ => []
  | a :: rest, v => (a, (x.execute a v).outcome) :: x.answers rest (x.execute a v).after

/-- The state of an executor after some actions. -/
def Executor.afterAll (x : Executor τ) : List Command.Action → τ → τ
  | [], v => v
  | a :: rest, v => x.afterAll rest (x.execute a v).after

/-- To go on with more actions is to go on from the state that has been reached. -/
theorem Executor.afterAll_append (x : Executor τ) (as bs : List Command.Action) (v : τ) :
    x.afterAll (as ++ bs) v = x.afterAll bs (x.afterAll as v) := by
  induction as generalizing v with
  | nil => rfl
  | cons a as ih => exact ih (x.execute a v).after

/-- The answers to more actions are those from the state that has been reached. -/
theorem Executor.answers_append (x : Executor τ) (as bs : List Command.Action) (v : τ) :
    x.answers (as ++ bs) v = x.answers as v ++ x.answers bs (x.afterAll as v) := by
  induction as generalizing v with
  | nil => rfl
  | cons a as ih => exact congrArg (List.cons _) (ih (x.execute a v).after)

/-- An executor beside the connection of a consumer, which it neither sees nor
changes. -/
def Executor.apart (x : Executor τ) : Executor (Messaging.Connection × τ) where
  execute a w :=
    let report := x.execute a w.2
    ⟨report.outcome, (w.1, report.after), report.events⟩

end Execution

namespace Consumer

open Messaging (Broker Connection Delivery Message Receipt)
open Work

variable {σ τ : Type}

/-- The commands in a trace, each with its answer. -/
def Trace.executions (t : Trace) :
    List (Command.Action × Except Execution.Failure Execution.Result) :=
  t.filterMap fun
    | .executed a r => some (a, r)
    | _ => none

namespace Trace

@[simp] theorem executions_append (t u : Trace) :
    executions (t ++ u) = t.executions ++ u.executions := List.filterMap_append

@[simp] theorem executions_cons_logged (e : Log.Entry) (t : Trace) :
    executions (.logged e :: t) = t.executions := rfl

@[simp] theorem executions_cons_acknowledged (receipt : Receipt)
    (r : Except Messaging.Error Unit) (t : Trace) :
    executions (.acknowledged receipt r :: t) = t.executions := rfl

@[simp] theorem executions_cons_pulled (r : Except Messaging.Error (Option Delivery))
    (t : Trace) : executions (.pulled r :: t) = t.executions := rfl

@[simp] theorem executions_cons_closed (r : Except Messaging.Error Unit) (t : Trace) :
    executions (.closed r :: t) = t.executions := rfl

@[simp] theorem executions_cons_started (queue : String) (r : Except Messaging.Error Unit)
    (t : Trace) : executions (.startedConsuming queue r :: t) = t.executions := rfl

@[simp] theorem executions_nil : executions [] = [] := rfl

/-- The commands are among the calls. -/
theorem executions_calls (t : Trace) : t.calls.executions = t.executions := by
  induction t with
  | nil => rfl
  | cons a t ih =>
    cases a with
    | executed action r => exact congrArg ((action, r) :: ·) ih
    | _ => exact ih

@[simp] theorem executions_entering (old new : Phase) : executions (entering old new) = [] := by
  unfold entering
  split <;> rfl

end Trace

/-- The action for a message, if its payload is resolved to one. -/
def action? (c : Consumer) (m : Message) : Option Command.Action :=
  (c.dispatcher.resolve m.payload).toOption

/-- Whether a command ran to its end and exited zero. -/
def exitedZero : Command.Action × Except Execution.Failure Execution.Result → Bool
  | (_, .ok result) => result.exitStatus == 0
  | (_, .error _) => false

/-- What dealing with some messages does to the counts, by what the executor
answers. -/
structure Counts (c : Consumer) (ms : List Message)
    (answers : List (Command.Action × Except Execution.Failure Execution.Result))
    (old new : Stats) : Prop where
  received : new.received = old.received + ms.length
  acknowledged : new.acknowledged = old.acknowledged + ms.length
  /-- Those whose command exited zero. -/
  remediated : new.remediated = old.remediated + answers.countP exitedZero
  /-- Those whose command exited otherwise, or had no result. -/
  failed : new.failed = old.failed + answers.countP fun e => !exitedZero e
  /-- Those whose payload is not resolved. -/
  rejected : new.rejected = old.rejected + ms.countP fun m => (c.action? m).isNone

/-- What dealing with some messages comes to. -/
structure Deals (c : Consumer) (x : Execution.Executor τ) (ms : List Message)
    (s t : State (Connection × τ)) (trace : Trace) : Prop where
  connection : t.world.1 = ⟨s.world.1.broker.serve c.queue ms.length, s.world.1.registration⟩
  executor : t.world.2 = x.afterAll (ms.filterMap c.action?) s.world.2
  executed : trace.executions = x.answers (ms.filterMap c.action?) s.world.2
  counts : Counts c ms (x.answers (ms.filterMap c.action?) s.world.2) s.stats t.stats

section
variable {c : Consumer} {x : Execution.Executor τ} {ms ms' : List Message}
  {s t u : State (Connection × τ)} {trace trace' : Trace}

/-- The counts of messages add up. -/
theorem Counts.append {old mid new : Stats}
    {as bs : List (Command.Action × Except Execution.Failure Execution.Result)}
    (h : Counts c ms as old mid) (h' : Counts c ms' bs mid new) :
    Counts c (ms ++ ms') (as ++ bs) old new where
  received := by rw [h'.received, h.received, List.length_append, Nat.add_assoc]
  acknowledged := by rw [h'.acknowledged, h.acknowledged, List.length_append, Nat.add_assoc]
  remediated := by rw [h'.remediated, h.remediated, List.countP_append, Nat.add_assoc]
  failed := by rw [h'.failed, h.failed, List.countP_append, Nat.add_assoc]
  rejected := by rw [h'.rejected, h.rejected, List.countP_append, Nat.add_assoc]

/-- **Dealing with messages and then with more of them is dealing with all.** -/
theorem Deals.append (h : Deals c x ms s t trace) (h' : Deals c x ms' t u trace') :
    Deals c x (ms ++ ms') s u (trace ++ trace') where
  connection := by
    rw [h'.connection, h.connection, Broker.serve_serve, List.length_append]
  executor := by
    rw [h'.executor, h.executor, List.filterMap_append, Execution.Executor.afterAll_append]
  executed := by
    rw [Trace.executions_append, h.executed, h'.executed, h.executor, List.filterMap_append,
      Execution.Executor.answers_append]
  counts := by
    rw [List.filterMap_append, Execution.Executor.answers_append, ← h.executor]
    exact h.counts.append h'.counts

/-- Dealing with no message does nothing. -/
theorem Deals.nil {rest : List Message}
    (hq : s.world.1.broker.queues.get? c.queue = some rest) (hw : t.world = s.world)
    (hs : t.stats = s.stats) (he : trace.executions = []) : Deals c x [] s t trace where
  connection := by rw [List.length_nil, Broker.serve_zero hq, hw]
  executor := by rw [hw]; rfl
  executed := he
  counts := hs ▸ ⟨rfl, rfl, rfl, rfl, rfl⟩

/-- What stands in front of the work and has no commands in it does not matter. -/
theorem Deals.precede (h : Deals c x ms s t trace) (he : trace'.executions = []) :
    Deals c x ms s t (trace' ++ trace) where
  connection := h.connection
  executor := h.executor
  executed := by rw [Trace.executions_append, he, List.nil_append, h.executed]
  counts := h.counts

end

/-! ### One message -/

/-- The executor is called with the action for the payload, if there is one. -/
theorem executions_decision (c : Consumer) (use : Services σ) (d : Delivery) (w : σ) :
    (c.decision use d w).trace.executions =
      match c.dispatcher.resolve d.payload with
      | .ok a => [(a, (use.executor.execute a w).outcome)]
      | .error _ => [] := by
  rw [← Trace.executions_calls, calls_decision]
  cases c.dispatcher.resolve d.payload <;> rfl

/-- It does not matter whether the acknowledgment or the outcome is counted first. -/
theorem Stats.acknowledge_record (s : Stats) (o : Outcome) :
    (s.record o).acknowledge = s.acknowledge.record o := by
  cases o with
  | remediated result =>
    simp only [record, acknowledge]
    split <;> rfl
  | rejected reason => rfl
  | failed failure => rfl

/-- A broker in memory beside an executor that has a state of its own. -/
def Services.beside (x : Execution.Executor (Connection × τ)) : Services (Connection × τ) where
  messaging := Messaging.Service.inMemory.within Prod.fst fun c w => (c, w.2)
  executor := x

section
variable (x : Execution.Executor (Connection × τ)) {y z : Connection} (v : τ)

/-- To draw a delivery leaves the executor alone. -/
theorem nextDelivery_beside {r : Except Messaging.Error (Option Delivery)}
    (h : y.nextDelivery = (r, z)) :
    (Services.beside x).messaging.nextDelivery (y, v) = (r, (z, v)) := by
  show (y.nextDelivery.1, (y.nextDelivery.2, v)) = _
  rw [h]

/-- To acknowledge a delivery leaves the executor alone. -/
theorem acknowledge_beside {receipt : Receipt} {r : Except Messaging.Error Unit}
    (h : y.acknowledge receipt = (r, z)) :
    (Services.beside x).messaging.acknowledge receipt (y, v) = (r, (z, v)) := by
  show ((y.acknowledge receipt).1, ((y.acknowledge receipt).2, v)) = _
  rw [h]

end

section
variable {c : Consumer} {x : Execution.Executor τ} {b : Broker} {m : Message}
  {ms : List Message} {s : State (Connection × τ)}

/-- **A decision runs the executor on the action for the message,** if there is one, and
leaves the connection alone. -/
theorem decision_apart (c : Consumer) (x : Execution.Executor τ) {d : Delivery}
    (hm : d.payload = m.payload) (w : Connection × τ) :
    (c.decision (.beside x.apart) d w).after =
        (w.1, x.afterAll ([m].filterMap c.action?) w.2) ∧
      (c.decision (.beside x.apart) d w).trace.executions =
        x.answers ([m].filterMap c.action?) w.2 := by
  rw [executions_decision, decision, hm]
  cases h : c.dispatcher.resolve m.payload with
  | error reason =>
    have hnone : c.action? m = none := by rw [action?, h]; rfl
    rw [List.filterMap_cons_none hnone]
    exact ⟨rfl, rfl⟩
  | ok a =>
    have hsome : c.action? m = some a := by rw [action?, h]; rfl
    rw [List.filterMap_cons_some hsome]
    exact ⟨rfl, rfl⟩

/-- **A decision is counted by what the executor answers.** -/
theorem counts_decision (c : Consumer) (x : Execution.Executor τ) {d : Delivery}
    (hm : d.payload = m.payload) (w : Connection × τ) (s : Stats) :
    Counts c [m] (x.answers ([m].filterMap c.action?) w.2) s
      (s.receive.acknowledge.record (c.decision (.beside x.apart) d w).outcome) := by
  rw [decision, hm]
  cases h : c.dispatcher.resolve m.payload with
  | error reason =>
    have hnone : c.action? m = none := by rw [action?, h]; rfl
    rw [List.filterMap_cons_none hnone]
    constructor <;> simp [hnone, Execution.Executor.answers, Stats.record, Stats.receive,
      Stats.acknowledge]
  | ok a =>
    have hsome : c.action? m = some a := by rw [action?, h]; rfl
    rw [List.filterMap_cons_some hsome]
    show Counts c [m] [(a, (x.execute a w.2).outcome)] s
      (s.receive.acknowledge.record (.ofExecution (x.execute a w.2).outcome))
    -- a command is counted as remediated or as failed
    rcases (x.execute a w.2).outcome with failure | result
    · constructor <;> simp [hsome, exitedZero, Outcome.ofExecution, Stats.record, Stats.receive,
        Stats.acknowledge]
    · cases hz : result.exitStatus == 0 <;>
        constructor <;> simp [hsome, hz, result.mirrors, exitedZero, Outcome.ofExecution,
          Stats.record, Stats.receive, Stats.acknowledge]

/-- Whatever comes first, the acknowledgment or the decision: one message is dealt with
once it has been served and the decision about it has been counted. -/
theorem deals_of_decision {t : State (Connection × τ)} {trace : Trace} {y : Connection} {v : τ}
    (hs : s.world = (⟨b, some c.queue⟩, v))
    (ht : t.world = (⟨b.serve c.queue 1, some c.queue⟩,
      (c.decision (.beside x.apart) (b.handOut m) (y, v)).after.2))
    (hstats : t.stats = s.stats.receive.acknowledge.record
      (c.decision (.beside x.apart) (b.handOut m) (y, v)).outcome)
    (he : trace.executions =
      (c.decision (.beside x.apart) (b.handOut m) (y, v)).trace.executions) :
    Deals c x [m] s t trace := by
  obtain ⟨hafter, hexecuted⟩ :=
    decision_apart c x (d := b.handOut m) (m := m) rfl (y, v)
  refine ⟨?_, ?_, ?_, ?_⟩
  · rw [ht, hs]
    rfl
  · rw [ht, hs, hafter]
  · rw [he, hs, hexecuted]
  · rw [hstats, hs]
    exact counts_decision c x rfl (y, v) s.stats

/-- **One message is drawn and dealt with,** in either mode. -/
theorem deals_one {v : τ} (hb : b.Serves 1) (hs : s.world = (⟨b, some c.queue⟩, v))
    (hq : b.queues.get? c.queue = some (m :: ms)) :
    ∃ d w o t trace,
      (Services.beside x.apart).messaging.nextDelivery s.world = (.ok (some d), w) ∧
      (c.process (.beside x.apart) d).done ⟨w, .processing, s.stats⟩ = ⟨.ok o, t, trace⟩ ∧
      Deals c x [m] s t (pulling s.phase d ++ trace) := by
  have hnext := nextDelivery_beside x.apart v
    (Connection.nextDelivery_of_cons (c := ⟨b, some c.queue⟩) rfl hq)
  rw [← hs] at hnext
  have hack := Connection.acknowledge_handedOut hb hq
  have hpulling : Trace.executions (pulling s.phase (b.handOut m)) = [] := by simp [pulling]
  cases hm : c.ackMode with
  | onReceipt =>
    refine ⟨_, _, _, _, _, hnext,
      done_process_of_acknowledged_first hm (acknowledge_beside x.apart v hack),
      (deals_of_decision hs ?_ rfl ?_).precede hpulling⟩
    · rw [(decision_apart c x (d := b.handOut m) (m := m) rfl _).1]
    · simp
  | afterExecution =>
    have hack' : (Services.beside x.apart).messaging.acknowledge (b.handOut m).receipt
        (c.decision (.beside x.apart) (b.handOut m)
          (Connection.handedOut ⟨b, some c.queue⟩ c.queue ms, v)).after =
        (.ok (), (⟨b.serve c.queue 1, some c.queue⟩, (c.decision (.beside x.apart) (b.handOut m)
          (Connection.handedOut ⟨b, some c.queue⟩ c.queue ms, v)).after.2)) := by
      rw [(decision_apart c x (d := b.handOut m) (m := m) rfl _).1]
      exact acknowledge_beside x.apart _ hack
    refine ⟨_, _, _, _, _, hnext, done_process_of_acknowledged_last hm hack',
      (deals_of_decision hs rfl (Stats.acknowledge_record _ _) ?_).precede hpulling⟩
    simp

end

/-! ### The whole run -/

/-- How consuming ends that finds so many messages: well if it is asked to stop
before it has found the queue empty. -/
def ending (c : Consumer) (looks : Option Nat) (messages : Nat) : Except Messaging.Error Unit :=
  match looks with
  | some n => if n ≤ messages then .ok () else .error (.connectionClosed c.queue)
  | none => .error (.connectionClosed c.queue)

/-- How many of so many messages are dealt with. -/
def dealt (looks : Option Nat) (messages : Nat) : Nat :=
  match looks with
  | some n => min n messages
  | none => messages

section
variable {c : Consumer} {x : Execution.Executor τ}

/-- **Listening deals with the messages of the queue,** as many as it is given looks
for. -/
theorem deals_listen (c : Consumer) (x : Execution.Executor τ) (n : Nat) :
    ∀ (ms : List Message) (b : Broker) (v : τ) (s : State (Connection × τ)),
      b.Serves (min n ms.length) → s.world = (⟨b, some c.queue⟩, v) →
      b.queues.get? c.queue = some ms →
      let d := (c.listen (.beside x.apart) n).done s
      Deals c x (ms.take n) s d.after d.trace ∧ d.answer = c.ending (some n) ms.length := by
  induction n with
  | zero =>
    intro ms b v s _ hs hq
    rw [done_listen_zero]
    refine ⟨Deals.nil (by rwa [hs]) rfl rfl (by simp), ?_⟩
    rw [ending, if_pos (Nat.zero_le _)]
  | succ n ih =>
    intro ms b v s hb hs hq
    cases ms with
    | nil =>
      have hnext := nextDelivery_beside x.apart v
        (Connection.nextDelivery_of_drained (c := ⟨b, some c.queue⟩) rfl (.inr hq))
      rw [← hs] at hnext
      rw [done_listen_of_drained hnext]
      refine ⟨Deals.nil (by rwa [hs]) rfl rfl (by simp), ?_⟩
      rw [ending, if_neg (by simp)]
    | cons m rest =>
      rw [List.length_cons, Nat.add_min_add_right, Nat.add_comm] at hb
      obtain ⟨d, w, o, t, trace, hnext, hprocess, hdeals⟩ :=
        deals_one (x := x) (hb.mono (Nat.le_add_right ..)) hs hq
      have ht : t.world = (⟨b.serve c.queue 1, some c.queue⟩, t.world.2) := by
        have hconnection := hdeals.connection
        rw [hs] at hconnection
        exact Prod.ext hconnection rfl
      have hrest := Broker.get?_serve b c.queue 1
      rw [Messaging.Queues.messages_of_get? hq] at hrest
      obtain ⟨hlater, hanswer⟩ := ih rest _ _ t (hb.serve c.queue) ht hrest
      rw [done_listen_of_handled hnext hprocess]
      refine ⟨hdeals.append hlater, hanswer.trans ?_⟩
      simp only [ending, List.length_cons, Nat.add_le_add_iff_right]

variable {ms : List Message} {b : Broker} {s : State (Connection × τ)} {n : Nat}

/-- The state once the consumer is registered. -/
def registering (c : Consumer) (s : State (Connection × τ)) : State (Connection × τ) :=
  { s with world := (⟨s.world.1.broker, some c.queue⟩, s.world.2) }

/-- **Consuming deals with them too:** to register leaves the broker alone. -/
theorem deals_consume (hb : s.world.1.broker.Serves (min n ms.length))
    (hq : s.world.1.broker.queues.get? c.queue = some ms) :
    let d := (c.consume (.beside x.apart) n).done s
    Deals c x (ms.take n) (c.registering s) d.after d.trace ∧
      d.answer = c.ending (some n) ms.length := by
  have hstart : (Services.beside x.apart).messaging.startConsuming c.queue s.world =
      (.ok (), (c.registering s).world) := by
    show ((s.world.1.startConsuming c.queue).1, ((s.world.1.startConsuming c.queue).2, _)) = _
    rw [Connection.startConsuming, hq]
    rfl
  obtain ⟨hdeals, hanswer⟩ := deals_listen c x n ms _ _ (c.registering s) hb rfl hq
  rw [done_consume_of_registered hstart]
  exact ⟨hdeals.precede (by simp), hanswer⟩

end

/-- **What a run leaves behind** that deals with the messages `ms` of its queue and leaves
`rest` there. -/
structure Effect (c : Consumer) (x : Execution.Executor τ) (ms rest : List Message)
    (s : State (Connection × τ)) (d : Done (Connection × τ) Unit) : Prop where
  /-- The executor was run on the actions for these messages, in order, and on nothing
  else; its answers are those that it gives from its own state. -/
  executed : d.trace.executions = x.answers (ms.filterMap c.action?) s.world.2
  /-- It is left in the state that it goes to by itself. -/
  executor : d.after.world.2 = x.afterAll (ms.filterMap c.action?) s.world.2
  acknowledged : d.after.world.1.broker.acknowledged = s.world.1.broker.acknowledged ++
    (List.range' (s.world.1.broker.delivered + 1) ms.length).map Receipt.ofTag
  unacknowledged : d.after.world.1.broker.unacknowledged = s.world.1.broker.unacknowledged
  queue : d.after.world.1.broker.queues.get? c.queue = some rest
  others : ∀ other, other ≠ c.queue →
    d.after.world.1.broker.queues.get? other = s.world.1.broker.queues.get? other
  delivered : d.after.world.1.broker.delivered = s.world.1.broker.delivered + ms.length
  /-- The outcomes are counted by the answers of the executor. -/
  counts : Counts c ms (x.answers (ms.filterMap c.action?) s.world.2) s.stats d.after.stats
  closed : d.after.world.1.broker.closeCalls = s.world.1.broker.closeCalls + 1
  unregistered : d.after.world.1.registration = none
  terminated : d.after.phase = .terminated

section
variable {c : Consumer} {x : Execution.Executor τ} {ms : List Message}
  {s : State (Connection × τ)} {n : Nat}

/-- **A run deals with the messages of the queue and closes.** -/
theorem effect_run (hb : s.world.1.broker.Serves (min n ms.length))
    (hq : s.world.1.broker.queues.get? c.queue = some ms) :
    Effect c x (ms.take n) (ms.drop n) s ((c.run (.beside x.apart) n).done s) ∧
      ((c.run (.beside x.apart) n).done s).answer = c.ending (some n) ms.length := by
  obtain ⟨hdeals, hanswer⟩ := deals_consume (x := x) hb hq
  rw [done_run]
  generalize (c.consume (.beside x.apart) n).done s = d at hdeals hanswer ⊢
  have hclose : (Services.beside x.apart).messaging.close d.after.world =
      (.ok (), (d.after.world.1.close.2, d.after.world.2)) := rfl
  have hbroker : d.after.world.1.broker = s.world.1.broker.serve c.queue (ms.take n).length := by
    rw [hdeals.connection]
    rfl
  rw [done_finish_of_closed hclose]
  refine ⟨?_, hanswer⟩
  refine ⟨?_, hdeals.executor, ?_, ?_, ?_, fun other hne => ?_, ?_, hdeals.counts, ?_, rfl, rfl⟩
  · simp [hdeals.executed, registering]
  all_goals simp only [Done.precede, Connection.close, hbroker, Broker.serve]
  · rw [Messaging.Queues.get?_set_self, Messaging.Queues.messages_of_get? hq, List.length_take,
      ← List.drop_eq_drop_min]
  · exact Messaging.Queues.get?_set_of_ne hne _ _

/-- **The exact effect of a run,** in either mode, whatever the executor keeps in its state
and however often it fails.  It is over once it has dealt with as many of the messages as it
has looks for before the request to shut down, and with all of them if there is none; and it
ends well exactly if the request comes before the queue is found empty. -/
theorem exact_effect {h : Messaging.History} {session : Messaging.Session} {client : Nat}
    {looks : Option Nat} (hr : Messaging.Reached h session)
    (hs : s.world.1 = session.connection client)
    (hq : session.broker.queues.get? c.queue = some ms)
    (hf : session.broker.refusesAcks = false)
    (hn : h.handedOut.length + dealt looks ms.length < 2 ^ 64) :
    (∃ d, c.Ends (.beside x.apart) looks s d) ∧
      ∀ d, c.Ends (.beside x.apart) looks s d →
        d.answer = c.ending looks ms.length ∧
        Effect c x (ms.take (dealt looks ms.length)) (ms.drop (dealt looks ms.length)) s d := by
  have hbroker : s.world.1.broker = session.broker := by
    rw [hs]
    rfl
  have hb := Broker.serves_of_reached hr hf hn
  rw [← hbroker] at hb hq
  cases looks with
  | some n =>
    refine ⟨⟨_, rfl⟩, fun d hd => ?_⟩
    obtain ⟨heffect, hanswer⟩ := effect_run (x := x) hb hq
    subst hd
    rw [dealt, ← List.take_eq_take_min, ← List.drop_eq_drop_min]
    exact ⟨hanswer, heffect⟩
  | none =>
    have hb' : ∀ n, s.world.1.broker.Serves (min n ms.length) := fun n =>
      hb.mono (Nat.min_le_right _ _)
    have hconsume : ∀ n, ((c.consume (.beside x.apart) n).done s).answer =
        c.ending (some n) ms.length := fun n => (deals_consume (hb' n) hq).2
    refine ⟨?_, fun d hd => ?_⟩
    · have hfails : ((c.consume (.beside x.apart) (ms.length + 1)).done s).answer =
          .error (.connectionClosed c.queue) := by rw [hconsume, ending, if_neg (by omega)]
      obtain ⟨d, hd⟩ := unasked_iff.2 ⟨_, hfails⟩
      exact ⟨d, _, hd⟩
    · obtain ⟨n, hd⟩ := hd
      -- consuming has failed, so there were more looks than messages
      obtain ⟨e, he⟩ := unasked_iff.1 ⟨d, hd⟩
      have hlt : ¬n ≤ ms.length := by
        intro hle
        rw [hconsume, ending, if_pos hle] at he
        cases he
      obtain ⟨heffect, hanswer⟩ := effect_run (x := x) (hb' n) hq
      rw [List.take_of_length_le (by omega), List.drop_of_length_le (by omega)] at heffect
      rw [ending, if_neg hlt] at hanswer
      rw [eq_done_run_of_unasked hd, dealt, List.take_length, List.drop_length]
      exact ⟨hanswer, heffect⟩

end

/-- An executor that exits with how often it has been called, and fails at the third
call. -/
def tiring : Execution.Executor Nat where
  execute _ calls :=
    if calls = 2 then ⟨.error (.spawn "docker" "gone"), calls + 1, []⟩
    else ⟨.ok (.ofExitStatus calls 0), calls + 1, []⟩

/-- Of six messages a run with five looks deals with five.  One of these is not the name of a
service that may be acted on; the commands for the other four exit zero, exit one, cannot be
run, and exit three. -/
theorem exact_effect_of_five_looks :
    let c : Consumer := ⟨⟨⟨⟨"", .empty⟩, ["a"]⟩, .standard⟩, "alerts", .afterExecution⟩
    ∃ (s : State (Connection × Nat)) (d : Done (Connection × Nat) Unit),
      c.Ends (.beside tiring.apart) (some 5) s d ∧ d.answer = .ok () ∧
      d.trace.executions.map Prod.snd = [.ok (.ofExitStatus 0 0), .ok (.ofExitStatus 1 0),
        .error (.spawn "docker" "gone"), .ok (.ofExitStatus 3 0)] ∧
      d.after.world.2 = 4 ∧ d.after.stats = ⟨5, 5, 1, 3, 1⟩ ∧
      d.after.world.1.broker.queues.get? "alerts" = some [⟨[97], false⟩] := by
  intro c
  have h₀ := (Messaging.Reached.start ["alerts"]).step 0 (.send "alerts" [97]) (by decide)
  have h₁ := (h₀.step 0 (.send "alerts" [98]) (by decide)).step 0 (.send "alerts" [97]) (by decide)
  have h₂ := (h₁.step 0 (.send "alerts" [97]) (by decide)).step 0 (.send "alerts" [97]) (by decide)
  have h₃ := h₂.step 0 (.send "alerts" [97]) (by decide)
  obtain ⟨⟨d, hd⟩, heffect⟩ := @exact_effect Nat c tiring
    [⟨[97], false⟩, ⟨[98], false⟩, ⟨[97], false⟩, ⟨[97], false⟩, ⟨[97], false⟩, ⟨[97], false⟩]
    (.initial (Messaging.Session.connection _ 0, 0)) _ _ 0 (some 5) h₃ rfl (by decide) (by decide)
    (by decide)
  obtain ⟨hanswer, hd'⟩ := heffect d hd
  have hstats : d.after.stats = ⟨5, 5, 1, 3, 1⟩ := by
    obtain ⟨hreceived, hacknowledged, hremediated, hfailed, hrejected⟩ := hd'.counts
    cases hs : d.after.stats
    simp only [hs] at hreceived hacknowledged hremediated hfailed hrejected
    rw [hreceived, hacknowledged, hremediated, hfailed, hrejected]
    decide
  refine ⟨_, d, hd, hanswer, ?_, hd'.executor.trans (by decide), hstats, hd'.queue⟩
  rw [hd'.executed]
  decide

end Consumer
end Remedy
