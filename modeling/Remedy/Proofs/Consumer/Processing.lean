/-
# What dealing with one delivery leaves behind

`Consumer.decide` never fails, and changes nothing but what the executor changes:
`decision` is what it comes to, `done_decide` says so.  A delivery is dealt with in
one of four ways, by the mode and by what comes of its acknowledgment; each of
them has its equation here.
-/

import Remedy.Proofs.Consumer.Work

namespace Remedy
namespace Consumer

open Messaging (Delivery)
open Work

variable {σ : Type}

/-- What a decision about a delivery comes to. -/
structure Decision (σ : Type) where
  outcome : Outcome
  after : σ
  trace : Trace

/-- What became of a delivery for which a command was run. -/
def Outcome.ofExecution : Except Execution.Failure Execution.Result → Outcome
  | .ok result => .remediated result
  | .error failure => .failed failure

/-- An entry about a delivery. -/
def entryOf (d : Delivery) (level : Log.Level) (message : String) (fields : Log.Fields) :
    Log.Entry := (event level message fields).within (spanOf d)

/-- The entry with which work on a delivery begins. -/
def receivedEntry (d : Delivery) : Log.Entry :=
  entryOf d .info "Received alert"
    [("payload", .text (preview d.payload)), ("bytes", .nat d.payload.length)]

/-- The entry about a successful acknowledgment. -/
def acknowledgedEntry (d : Delivery) : Log.Entry :=
  entryOf d .debug "Delivery acknowledged" [("receipt_handle", .text d.receipt.text)]

/-- The entry that reports an outcome. -/
def outcomeEntry (d : Delivery) (o : Outcome) : Log.Entry :=
  (outcomeReport d o).within (spanOf d)

/-- The entry about a command that could not be run to its end. -/
def failureEntries (d : Delivery) (a : Command.Action) :
    Except Execution.Failure Execution.Result → Trace
  | .ok _ => []
  | .error failure =>
    [.logged ((Log.failure "executor" "execute" failure.message (some a.target.text)).within
      (spanOf d))]

/-- What running an action for a delivery comes to. -/
def action (use : Services σ) (d : Delivery) (a : Command.Action) (w : σ) : Decision σ :=
  let report := use.executor.execute a w
  { outcome := .ofExecution report.outcome
    after := report.after
    trace :=
      .logged (entryOf d .info "Executing runbook"
        [("target_service", .text a.target.text), ("command", .text a.commandLine)]) ::
      .executed a report.outcome ::
      (report.events.map fun e => .logged (e.within (spanOf d))) ++
      failureEntries d a report.outcome }

/-- What the decision about a delivery comes to. -/
def decision (c : Consumer) (use : Services σ) (d : Delivery) (w : σ) : Decision σ :=
  match c.dispatcher.resolve d.payload with
  | .ok a => action use d a w
  | .error reason =>
    { outcome := .rejected reason
      after := w
      trace := [.logged (entryOf d .warn "Alert rejected; no remediation run"
        [("error", .text reason.message)])] }

/-- What acting comes to. -/
theorem done_act (use : Services σ) (d : Delivery) (a : Command.Action) (s : State σ) :
    (act use d a).done s = ⟨.ok (action use d a s.world).outcome,
      { s with world := (action use d a s.world).after }, (action use d a s.world).trace⟩ := by
  unfold act action tell
  rw [done_log_bind, done_execute_bind]
  cases h : (use.executor.execute a s.world).outcome with
  | ok result => simp [h, done_pure, Done.precede, failureEntries, Outcome.ofExecution, entryOf]
  | error failure =>
    simp [h, done_log_bind, done_pure, Done.precede, failureEntries, Outcome.ofExecution, entryOf]

/-- **A decision is always reached.**  It changes what the executor changes, and
neither the phase nor the counts. -/
theorem done_decide (c : Consumer) (use : Services σ) (d : Delivery) (s : State σ) :
    (c.decide use d).done s = ⟨.ok (c.decision use d s.world).outcome,
      { s with world := (c.decision use d s.world).after }, (c.decision use d s.world).trace⟩ := by
  unfold Consumer.decide decision
  cases c.dispatcher.resolve d.payload with
  | ok a => exact done_act use d a s
  | error reason => rfl

/-- **A decision calls the executor with the action for the payload,** if there is one. -/
theorem calls_decision (c : Consumer) (use : Services σ) (d : Delivery) (w : σ) :
    (c.decision use d w).trace.calls =
      match c.dispatcher.resolve d.payload with
      | .ok a => [.executed a (use.executor.execute a w).outcome]
      | .error _ => [] := by
  unfold decision
  cases c.dispatcher.resolve d.payload with
  | error reason => rfl
  | ok a =>
    have hf : Trace.calls (failureEntries d a (use.executor.execute a w).outcome) = [] := by
      unfold failureEntries
      split <;> rfl
    simp only [action, List.cons_append, Trace.calls_cons_logged,
      Trace.calls_cons (a := .executed _ _) rfl, Trace.calls_append, Trace.calls_map_logged, hf,
      List.append_nil]

/-- The counts when work on a delivery begins. -/
def Stats.receive (s : Stats) : Stats := { s with received := s.received + 1 }

/-- The counts after a successful acknowledgment. -/
def Stats.acknowledge (s : Stats) : Stats := { s with acknowledged := s.acknowledged + 1 }

section
variable {c : Consumer} {use : Services σ} {d : Delivery} {s : State σ} {w : σ}
  {e : Messaging.Error}

/-- An acknowledgment that is accepted is counted and told. -/
theorem done_acknowledge_of_ok
    (h : use.messaging.acknowledge d.receipt s.world = (.ok (), w)) :
    (acknowledge use d).done s = ⟨.ok (), ⟨w, s.phase, s.stats.acknowledge⟩,
      [.acknowledged d.receipt (.ok ()), .logged (acknowledgedEntry d)]⟩ := by
  unfold acknowledge
  rw [done_bind_of_ok (done_call h _), done_count_bind]
  rfl

/-- One that is refused ends the work with its error, and is not counted. -/
theorem done_acknowledge_of_error
    (h : use.messaging.acknowledge d.receipt s.world = (.error e, w)) :
    (acknowledge use d).done s =
      ⟨.error e, { s with world := w }, [.acknowledged d.receipt (.error e)]⟩ := by
  unfold acknowledge
  rw [done_bind_of_error (done_call h _)]

/-- **Acknowledged on receipt:** the decision follows the acknowledgment. -/
theorem done_process_of_acknowledged_first (hm : c.ackMode = .onReceipt)
    (h : use.messaging.acknowledge d.receipt s.world = (.ok (), w)) :
    (c.process use d).done s =
      let x := c.decision use d w
      ⟨.ok x.outcome, ⟨x.after, s.phase, s.stats.receive.acknowledge.record x.outcome⟩,
        [.logged (receivedEntry d), .acknowledged d.receipt (.ok ()),
          .logged (acknowledgedEntry d)] ++ x.trace ++ [.logged (outcomeEntry d x.outcome)]⟩ := by
  have ha := done_acknowledge_of_ok (s := { s with stats := s.stats.receive }) h
  unfold process tell
  rw [done_count_bind, ← Stats.receive, done_log_bind, if_pos hm, done_bind_of_ok ha,
    done_bind_of_ok (done_decide c use d _), done_count_bind, if_neg (by rw [hm]; decide)]
  simp [done_log_bind, done_pure, Done.precede, receivedEntry, outcomeEntry, entryOf]

/-- **Refused on receipt:** nothing follows the acknowledgment. -/
theorem done_process_of_refused_first (hm : c.ackMode = .onReceipt)
    (h : use.messaging.acknowledge d.receipt s.world = (.error e, w)) :
    (c.process use d).done s = ⟨.error e, ⟨w, s.phase, s.stats.receive⟩,
      [.logged (receivedEntry d), .acknowledged d.receipt (.error e)]⟩ := by
  have ha := done_acknowledge_of_error (s := { s with stats := s.stats.receive }) h
  unfold process tell
  rw [done_count_bind, ← Stats.receive, done_log_bind, if_pos hm, done_bind_of_error ha]
  rfl

/-- **Acknowledged after execution:** the acknowledgment follows the decision. -/
theorem done_process_of_acknowledged_last (hm : c.ackMode = .afterExecution)
    (h : use.messaging.acknowledge d.receipt (c.decision use d s.world).after = (.ok (), w)) :
    (c.process use d).done s =
      let x := c.decision use d s.world
      ⟨.ok x.outcome, ⟨w, s.phase, (s.stats.receive.record x.outcome).acknowledge⟩,
        .logged (receivedEntry d) :: x.trace ++ [.acknowledged d.receipt (.ok ()),
          .logged (acknowledgedEntry d), .logged (outcomeEntry d x.outcome)]⟩ := by
  have ha := done_acknowledge_of_ok (s := ⟨(c.decision use d s.world).after, s.phase,
    s.stats.receive.record (c.decision use d s.world).outcome⟩) h
  unfold process tell
  rw [done_count_bind, ← Stats.receive, done_log_bind, if_neg (by rw [hm]; decide),
    done_bind_of_ok (done_decide c use d _), done_count_bind, if_pos hm, done_bind_of_ok ha]
  simp [done_log_bind, done_pure, Done.precede, receivedEntry, outcomeEntry, entryOf]

/-- **Refused after execution:** the outcome is counted, but not reported. -/
theorem done_process_of_refused_last (hm : c.ackMode = .afterExecution)
    (h : use.messaging.acknowledge d.receipt (c.decision use d s.world).after = (.error e, w)) :
    (c.process use d).done s =
      let x := c.decision use d s.world
      ⟨.error e, ⟨w, s.phase, s.stats.receive.record x.outcome⟩,
        .logged (receivedEntry d) :: x.trace ++ [.acknowledged d.receipt (.error e)]⟩ := by
  have ha := done_acknowledge_of_error (s := ⟨(c.decision use d s.world).after, s.phase,
    s.stats.receive.record (c.decision use d s.world).outcome⟩) h
  unfold process tell
  rw [done_count_bind, ← Stats.receive, done_log_bind, if_neg (by rw [hm]; decide),
    done_bind_of_ok (done_decide c use d _), done_count_bind, if_pos hm, done_bind_of_error ha]
  simp [Done.precede, receivedEntry, entryOf]

end

/-- **The four ways in which work on a delivery goes,** by mode and acknowledgment. -/
theorem process_cases (c : Consumer) (use : Services σ) (d : Delivery) (s : State σ)
    {motive : Done σ Outcome → Prop}
    (refused_first : ∀ e w, c.ackMode = .onReceipt →
      use.messaging.acknowledge d.receipt s.world = (.error e, w) →
      motive ⟨.error e, ⟨w, s.phase, s.stats.receive⟩,
        [.logged (receivedEntry d), .acknowledged d.receipt (.error e)]⟩)
    (acknowledged_first : ∀ w, c.ackMode = .onReceipt →
      use.messaging.acknowledge d.receipt s.world = (.ok (), w) →
      let x := c.decision use d w
      motive ⟨.ok x.outcome, ⟨x.after, s.phase, s.stats.receive.acknowledge.record x.outcome⟩,
        [.logged (receivedEntry d), .acknowledged d.receipt (.ok ()),
          .logged (acknowledgedEntry d)] ++ x.trace ++ [.logged (outcomeEntry d x.outcome)]⟩)
    (refused_last : ∀ e w, c.ackMode = .afterExecution →
      let x := c.decision use d s.world
      use.messaging.acknowledge d.receipt x.after = (.error e, w) →
      motive ⟨.error e, ⟨w, s.phase, s.stats.receive.record x.outcome⟩,
        .logged (receivedEntry d) :: x.trace ++ [.acknowledged d.receipt (.error e)]⟩)
    (acknowledged_last : ∀ w, c.ackMode = .afterExecution →
      let x := c.decision use d s.world
      use.messaging.acknowledge d.receipt x.after = (.ok (), w) →
      motive ⟨.ok x.outcome, ⟨w, s.phase, (s.stats.receive.record x.outcome).acknowledge⟩,
        .logged (receivedEntry d) :: x.trace ++ [.acknowledged d.receipt (.ok ()),
          .logged (acknowledgedEntry d), .logged (outcomeEntry d x.outcome)]⟩) :
    motive ((c.process use d).done s) := by
  cases hm : c.ackMode with
  | onReceipt =>
    rcases h : use.messaging.acknowledge d.receipt s.world with ⟨e | _, w⟩
    · rw [done_process_of_refused_first hm h]
      exact refused_first e w hm h
    · rw [done_process_of_acknowledged_first hm h]
      exact acknowledged_first w hm h
  | afterExecution =>
    rcases h : use.messaging.acknowledge d.receipt (c.decision use d s.world).after with ⟨e | _, w⟩
    · rw [done_process_of_refused_last hm h]
      exact refused_last e w hm h
    · rw [done_process_of_acknowledged_last hm h]
      exact acknowledged_last w hm h

end Consumer
end Remedy
