/-
# Rehearsals

A rehearsal puts a consumer through a sequence of steps against a broker in
memory.  Two more clients of the broker take part: one for what happens on the
side of the senders, and one that draws deliveries which are then handed to the
consumer.  Each step has an answer and a trace of what the consumer did.
-/

import Remedy.Consumer.Run
import Remedy.Fatal
import Remedy.Rehearsal.Script

namespace Remedy

/-- What is rehearsed. -/
structure Rehearsal where
  consumer : Consumer
  executor : Execution.Executor Rehearsal.World
  faults : Messaging.Faults
  /-- How many messages the executor sends at most. -/
  sent : Nat

namespace Rehearsal

open Consumer (Done State Trace)

/-- The client that the consumer is. -/
def consumerClient : Nat := 0

/-- The client that stands for the senders. -/
def senderClient : Nat := 1

/-- The client that draws deliveries for the consumer. -/
def drawingClient : Nat := 2

/-- A step of a rehearsal. -/
inductive Step where
  /-- An operation on the side of the senders. -/
  | operate (op : Messaging.Operation)
  /-- Asks whether the consumer's service is healthy. -/
  | checkHealth
  /-- Runs the consumer; `looks` is the number of looks before the request to shut
  down, which may never come. -/
  | run (looks : Option Nat)
  /-- Draws a delivery from a queue and hands it to the consumer. -/
  | deliver (queue : String)
  /-- Hands a delivery to the consumer. -/
  | process (d : Messaging.Delivery)
  deriving DecidableEq, Repr

/-- The answer to a step. -/
inductive Answer where
  | operated (result : Except Messaging.Error Messaging.Answer)
  | ran (result : Except Fatal Unit)
  /-- Without an outcome, there was no delivery. -/
  | handled (result : Except Messaging.Error (Option Consumer.Outcome))

/-- What a step leaves behind. -/
structure Progress where
  answer : Answer
  after : State World
  trace : Trace

/-- The state in which a rehearsal starts. -/
def start (queues : List String) : State World :=
  let session : Messaging.Session := ⟨Messaging.Broker.withQueues queues, [none, none, none]⟩
  State.initial ⟨⟨session, 0⟩, []⟩

/-- The broker as the consumer reaches it. -/
def messaging (r : Rehearsal) : Messaging.Service World :=
  let client : Messaging.Service Messaging.Session :=
    Messaging.Service.inMemory.within (fun s => s.connection consumerClient)
      (fun c s => s.update consumerClient c)
  (r.faults.inject client).within World.session fun s w => { w with session := s }

/-- What the consumer uses. -/
def services (r : Rehearsal) : Consumer.Services World := ⟨r.messaging, r.executor⟩

/-- An operation of one of the other clients. -/
def operate (client : Nat) (op : Messaging.Operation) (s : State World) :
    Except Messaging.Error Messaging.Answer × State World :=
  let session := s.world.session
  let (answer, inner) := session.inner.step client op
  (answer, { s with world := { s.world with session := { session with inner := inner } } })

/-- More looks than there can be deliveries: each look but the last takes a
message, and these are the messages there are or may still be sent. -/
def enoughLooks (r : Rehearsal) (s : State World) : Nat :=
  s.world.session.inner.broker.queueLength r.consumer.queue + r.sent + 1

/-- A run of the consumer. -/
def run (r : Rehearsal) (looks : Option Nat) (s : State World) : Done World Unit :=
  match looks with
  | some n => r.consumer.run r.services n s
  | none =>
    let n := r.enoughLooks s
    (r.consumer.runUnasked? r.services n s).getD (r.consumer.run r.services n s)

/-- The consumer deals with one delivery. -/
def process (r : Rehearsal) (d : Messaging.Delivery) (s : State World) : Progress :=
  let done := r.consumer.process r.services d s
  ⟨.handled (done.answer.map some), done.after, done.trace⟩

/-- Draws a delivery from a queue and hands it to the consumer. -/
def deliver (r : Rehearsal) (queue : String) (s : State World) : Progress :=
  match operate drawingClient (.startConsuming queue) s with
  | (.error e, s) => ⟨.handled (.error e), s, []⟩
  | (.ok _, s) =>
    match operate drawingClient .nextDelivery s with
    | (.error e, s) => ⟨.handled (.error e), s, []⟩
    | (.ok (.delivery (some d)), s) => r.process d s
    | (.ok _, s) => ⟨.handled (.ok none), s, []⟩

/-- Takes a step. -/
def step (r : Rehearsal) (s : State World) : Step → Progress
  | .operate op =>
    let (answer, s) := operate senderClient op s
    ⟨.operated answer, s, []⟩
  | .checkHealth => ⟨.operated (.ok (.health (r.messaging.isHealthy s.world))), s, []⟩
  | .run looks =>
    let done := r.run looks s
    ⟨.ran (done.answer.mapError .messaging), done.after, done.trace⟩
  | .deliver queue => r.deliver queue s
  | .process d => r.process d s

/-- A call of the executor. -/
structure Call where
  action : Command.Action
  /-- How many acknowledgments the broker had seen. -/
  acknowledged : Nat
  phase : Consumer.Phase

/-- The calls of the executor in a trace, given the phase and the number of
acknowledgments at its start. -/
def calls (phase : Consumer.Phase) (acknowledged : Nat) : Trace → List Call
  | [] => []
  | .executed a _ :: rest => ⟨a, acknowledged, phase⟩ :: calls phase acknowledged rest
  | .entered p :: rest => calls p acknowledged rest
  | .acknowledged _ (.ok _) :: rest => calls phase (acknowledged + 1) rest
  | _ :: rest => calls phase acknowledged rest

end Rehearsal
end Remedy
