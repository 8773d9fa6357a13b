/-
# Consuming alerts

`process` deals with one delivery: it is acknowledged exactly once, before or
after the rest according to the mode, and a payload that is resolved to an
action is executed.  `run` registers, deals with deliveries one at a time, and
closes the service however it ends.

Bad payloads and failed commands are outcomes, not failures.  What ends a run is
a broker failure, the end of the stream of deliveries, or the request to shut
down, which is looked at once before each delivery.  A run is given the number
of looks at which there is no such request yet.

One thing is left out.  A consumer also looks for the request while the call for
the next delivery is pending, and drops that call when the request comes.  Here
a service answers each call at once, as a broker in memory does, so that no call
is ever pending; nothing is said about services that make a consumer wait, nor
about a delivery that such a service loses with a dropped call.
-/

import Remedy.Config.Basic
import Remedy.Consumer.Work
import Remedy.Log.Event
import Remedy.Text.Escape
import Remedy.Text.Utf8

namespace Remedy

/-- `RemediationConsumer`: a consumer of alerts, apart from its state. -/
structure Consumer where
  dispatcher : Dispatcher
  queue : String
  ackMode : Config.AckMode

namespace Consumer

open Messaging (Delivery Receipt)
open Work

variable {σ : Type}

/-- `from_config`: the consumer for a configuration. -/
def ofConfig (c : Config) : Except Config.Error Consumer := do
  let d ← c.runbook.dispatcher
  return ⟨d, c.endpoint.queue, c.runbook.ackMode⟩

/-- What a consumer uses. -/
structure Services (σ : Type) where
  messaging : Messaging.Service σ
  executor : Execution.Executor σ

/-- How many characters of a payload are shown. -/
def previewLength : Nat := 128

/-- `payload_preview`: a payload as it is shown in logs: printable and bounded. -/
def preview (payload : List UInt8) : String :=
  let cs := Text.Utf8.decodeLossy payload
  let shown := (cs.take previewLength).flatMap Text.escapeBare
  String.ofList (if previewLength < cs.length then shown ++ ['.', '.', '.'] else shown)

/-- An event of the consumer. -/
def event (level : Log.Level) (message : String) (fields : Log.Fields) : Log.Event :=
  ⟨level, Log.component "consumer", message, fields⟩

/-- The span of the work on a delivery. -/
def spanOf (d : Delivery) : Log.Span where
  name := "remediation"
  fields := [("receipt_handle", .text d.receipt.text), ("redelivered", .bool d.redelivered)]

/-- Writes a log entry about a delivery. -/
def tell (d : Delivery) (level : Log.Level) (message : String) (fields : Log.Fields) :
    Work σ Unit := log ((event level message fields).within (spanOf d))

/-- `acknowledge`: acknowledges a delivery, and counts it if that succeeds. -/
def acknowledge (use : Services σ) (d : Delivery) : Work σ Unit := do
  call (use.messaging.acknowledge d.receipt) (.acknowledged d.receipt)
  count fun s => { s with acknowledged := s.acknowledged + 1 }
  tell d .debug "Delivery acknowledged" [("receipt_handle", .text d.receipt.text)]

/-- Runs an action for a delivery. -/
def act (use : Services σ) (d : Delivery) (a : Command.Action) : Work σ Outcome := do
  tell d .info "Executing runbook"
    [("target_service", .text a.target.text), ("command", .text a.commandLine)]
  match ← execute use.executor (spanOf d) a with
  | .ok result => return .remediated result
  | .error failure =>
    log ((Log.failure "executor" "execute" failure.message (some a.target.text)).within (spanOf d))
    return .failed failure

/-- Decides about a delivery and acts on it. -/
def decide (c : Consumer) (use : Services σ) (d : Delivery) : Work σ Outcome := do
  match c.dispatcher.resolve d.payload with
  | .ok a => act use d a
  | .error reason =>
    tell d .warn "Alert rejected; no remediation run" [("error", .text reason.message)]
    return .rejected reason

/-- The service that an outcome is about; none for a rejected payload. -/
def serviceOf (d : Delivery) : Outcome → Option String
  | .rejected _ => none
  | _ => (Text.Utf8.decode? d.payload).map String.ofList

/-- The report on an outcome. -/
def outcomeReport (d : Delivery) (o : Outcome) : Log.Event :=
  Log.remediation {
    operation := "restart"
    service := serviceOf d o
    receipt := d.receipt.text
    status := o.status
    exitStatus := o.exitStatus?
    details := o.details? }

/-- `process_delivery`: deals with one delivery. -/
def process (c : Consumer) (use : Services σ) (d : Delivery) : Work σ Outcome := do
  count fun s => { s with received := s.received + 1 }
  tell d .info "Received alert"
    [("payload", .text (preview d.payload)), ("bytes", .nat d.payload.length)]
  if c.ackMode = .onReceipt then acknowledge use d
  let outcome ← c.decide use d
  count fun s => s.record outcome
  if c.ackMode = .afterExecution then acknowledge use d
  log ((outcomeReport d outcome).within (spanOf d))
  return outcome

/-- The loop of `consume`: deals with deliveries one at a time, until something ends it; `looks` is
the number of looks at which there is no request to shut down.  A request that comes while the next
delivery is awaited, where the call for it would be dropped, is not among them. -/
def listen (c : Consumer) (use : Services σ) : Nat → Work σ Unit
  | 0 => do
    enter .listening
    log (event .info "Shutdown requested while listening" []).entry
  | looks + 1 => do
    enter .listening
    match ← call use.messaging.nextDelivery .pulled with
    | none => fail (.connectionClosed c.queue)
    | some d =>
      enter .processing
      let _ ← c.process use d
      listen c use looks

/-- `consume`: registers and deals with deliveries. -/
def consume (c : Consumer) (use : Services σ) (looks : Nat) : Work σ Unit := do
  call (use.messaging.startConsuming c.queue) (.startedConsuming c.queue)
  log (event .info "Waiting for alerts"
    [("queue", .text c.queue), ("provider", .quoted use.messaging.provider),
      ("ack_mode", .text c.ackMode.text)]).entry
  c.listen use looks

/-- The report at the end of a run. -/
def stopReport (c : Consumer) (s : Stats) : Log.Event :=
  event .info "Consumer stopped"
    [("queue", .text c.queue), ("received", .nat s.received),
      ("acknowledged", .nat s.acknowledged), ("remediated", .nat s.remediated),
      ("failed", .nat s.failed), ("rejected", .nat s.rejected)]

/-- What follows consuming, whatever came of it: the service is closed.  Of two
failures the first one is answered. -/
def finish (c : Consumer) (use : Services σ) (consumed : Except Messaging.Error Unit) :
    Work σ Unit := do
  enter .terminated
  let closed ← attempt (call use.messaging.close .closed)
  log (c.stopReport (← state).stats).entry
  match consumed, closed with
  | .error e, .error late =>
    log (event .warn "Close after failure also failed" [("error", .text late.message)]).entry
    fail e
  | .error e, .ok _ => fail e
  | .ok _, closed => ofResult closed

/-- `run`: a run: consuming, and closing the service however that ends. -/
def run (c : Consumer) (use : Services σ) (looks : Nat) : Work σ Unit := do
  c.finish use (← attempt (c.consume use looks))

/-- A run during which nobody asks to shut down, if a failure ends it within so
many deliveries. -/
def runUnasked? (c : Consumer) (use : Services σ) (looks : Nat) (s : State σ) :
    Option (Done σ Unit) :=
  match c.consume use looks s with
  | ⟨.ok _, _, _⟩ => none
  | ⟨.error e, t, trace⟩ =>
    let d := c.finish use (.error e) t
    some { d with trace := trace ++ d.trace }

end Consumer

namespace Consumer.Trace

/-- The log entries of a trace. -/
def entries (t : Trace) : List Log.Entry :=
  t.filterMap fun a =>
    match a with
    | .logged e => some e
    | _ => none

end Consumer.Trace
end Remedy
