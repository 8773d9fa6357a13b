/-
# The work of a consumer

A consumer connects, then listens and processes in turn, and is terminated in
the end; a terminated consumer may be run again.

What a consumer does leaves a trace: the calls it makes, the phases it enters
and the log entries it writes, in order.  `Work` is a computation that changes
the state of a consumer, may end in a broker failure, and says what it did.
Work done before a failure stays done, and stays in the trace.
-/

import Remedy.Consumer.Outcome
import Remedy.Execution.Executor
import Remedy.Messaging.Service

namespace Remedy
namespace Consumer

open Messaging (Delivery Receipt)

/-- `ConsumerState`: where a consumer is in its life. -/
inductive Phase where
  /-- Registers with the broker. -/
  | connecting
  /-- Waits for the next delivery. -/
  | listening
  /-- Acts on one delivery. -/
  | processing
  | terminated
  deriving DecidableEq, Repr

/-- The name of a phase. -/
def Phase.text : Phase → String
  | connecting => "connecting"
  | listening => "listening"
  | processing => "processing"
  | terminated => "terminated"

/-- Something that a consumer does. -/
inductive Activity where
  | startedConsuming (queue : String) (result : Except Messaging.Error Unit)
  | pulled (result : Except Messaging.Error (Option Delivery))
  | acknowledged (receipt : Receipt) (result : Except Messaging.Error Unit)
  | executed (action : Command.Action) (result : Except Execution.Failure Execution.Result)
  | closed (result : Except Messaging.Error Unit)
  | entered (phase : Phase)
  | logged (entry : Log.Entry)

/-- What a consumer did, in order. -/
abbrev Trace := List Activity

/-- The state of a consumer, with the state of the services it uses. -/
structure State (σ : Type) where
  world : σ
  phase : Phase
  stats : Stats

/-- The state of a consumer that has not been run. -/
def State.initial {σ : Type} (world : σ) : State σ := ⟨world, .connecting, {}⟩

/-- What a piece of work leaves behind. -/
structure Done (σ α : Type) where
  answer : Except Messaging.Error α
  after : State σ
  trace : Trace

/-- A piece of work. -/
def Work (σ α : Type) : Type := State σ → Done σ α

namespace Work

variable {σ α β : Type}

/-- Nothing to do. -/
def ofValue (a : α) : Work σ α := fun s => ⟨.ok a, s, []⟩

/-- One piece of work after another, unless the first one fails. -/
def andThen (x : Work σ α) (f : α → Work σ β) : Work σ β := fun s =>
  match x s with
  | ⟨.ok a, t, trace⟩ =>
    let d := f a t
    ⟨d.answer, d.after, trace ++ d.trace⟩
  | ⟨.error e, t, trace⟩ => ⟨.error e, t, trace⟩

instance : Monad (Work σ) where
  pure := ofValue
  bind := andThen

/-- Ends in a failure. -/
def fail (e : Messaging.Error) : Work σ α := fun s => ⟨.error e, s, []⟩

/-- Ends as a result says. -/
def ofResult : Except Messaging.Error α → Work σ α
  | .ok a => ofValue a
  | .error e => fail e

/-- Work whose failure is an answer. -/
def attempt (x : Work σ α) : Work σ (Except Messaging.Error α) := fun s =>
  let d := x s
  ⟨.ok d.answer, d.after, d.trace⟩

/-- The state of the consumer. -/
def state : Work σ (State σ) := fun s => ⟨.ok s, s, []⟩

/-- A call of a service, recorded with its result. -/
def call (f : σ → Except Messaging.Error α × σ)
    (activity : Except Messaging.Error α → Activity) : Work σ α := fun s =>
  let (r, world) := f s.world
  ⟨r, { s with world := world }, [activity r]⟩

/-- Writes a log entry. -/
def log (entry : Log.Entry) : Work σ Unit := fun s => ⟨.ok (), s, [.logged entry]⟩

/-- Changes the counts. -/
def count (f : Stats → Stats) : Work σ Unit := fun s =>
  ⟨.ok (), { s with stats := f s.stats }, []⟩

/-- Runs an action; what the executor tells is told within a span. -/
def execute (executor : Execution.Executor σ) (span : Log.Span) (action : Command.Action) :
    Work σ (Except Execution.Failure Execution.Result) := fun s =>
  let report := executor.execute action s.world
  ⟨.ok report.outcome, { s with world := report.after },
    .executed action report.outcome :: report.events.map fun e => .logged (e.within span)⟩

/-- What is told about a change of phase. -/
def transitionEvent (old new : Phase) : Log.Event where
  level := .debug
  source := Log.component "consumer"
  message := "Consumer state transition"
  fields := [("from", .text old.text), ("to", .text new.text)]

/-- `transition`: enters a phase; that is told unless it is the current one. -/
def enter (phase : Phase) : Work σ Unit := fun s =>
  let told : Trace :=
    if s.phase = phase then [] else [.logged (transitionEvent s.phase phase).entry]
  ⟨.ok (), { s with phase := phase }, .entered phase :: told⟩

end Work
end Consumer
end Remedy
