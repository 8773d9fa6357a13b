/-
# How a run goes

A run registers, deals with deliveries one at a time and closes the service.
`listen_induction` is the induction on how the listening goes: it stops when it is
asked to, it ends with a failure of the broker, or it deals with a delivery and
goes on.  Whatever holds of each of these holds of every run.

`Ends` says that a run is over, also of a run that nobody asks to stop; such a run
may never be over, and `Makes` says which calls have been made by some moment.
-/

import Remedy.Proofs.Consumer.Processing

namespace Remedy
namespace Consumer

open Messaging (Delivery)
open Work

variable {σ : Type}

/-- The entry about a request to shut down. -/
def shutdownEntry : Log.Entry := (event .info "Shutdown requested while listening" []).entry

section
variable {c : Consumer} {use : Services σ} {n : Nat} {s t : State σ} {w : σ} {d : Delivery}
  {e : Messaging.Error} {o : Outcome} {trace : Trace}

/-- A loop that is asked at once. -/
theorem done_listen_zero (c : Consumer) (use : Services σ) (s : State σ) :
    (c.listen use 0).done s = ⟨.ok (), { s with phase := .listening },
      entering s.phase .listening ++ [.logged shutdownEntry]⟩ := rfl

/-- A loop that ends because the next delivery fails. -/
theorem done_listen_of_failed (h : use.messaging.nextDelivery s.world = (.error e, w)) :
    (c.listen use (n + 1)).done s = ⟨.error e, ⟨w, .listening, s.stats⟩,
      entering s.phase .listening ++ [.pulled (.error e)]⟩ := by
  have hp := done_call (s := { s with phase := .listening }) h .pulled
  unfold listen
  rw [done_enter_bind, done_bind_of_error hp]
  rfl

/-- A loop that ends because there are no more deliveries. -/
theorem done_listen_of_drained (h : use.messaging.nextDelivery s.world = (.ok none, w)) :
    (c.listen use (n + 1)).done s = ⟨.error (.connectionClosed c.queue),
      ⟨w, .listening, s.stats⟩, entering s.phase .listening ++ [.pulled (.ok none)]⟩ := by
  have hp := done_call (s := { s with phase := .listening }) h .pulled
  unfold listen
  rw [done_enter_bind, done_bind_of_ok hp]
  rfl

/-- What stands in the trace from where listening begins to where work on a
delivery begins. -/
def pulling (old : Phase) (d : Delivery) : Trace :=
  entering old .listening ++ .pulled (.ok (some d)) :: entering .listening .processing

/-- A loop that ends because a delivery cannot be dealt with. -/
theorem done_listen_of_refused (h : use.messaging.nextDelivery s.world = (.ok (some d), w))
    (hd : (c.process use d).done ⟨w, .processing, s.stats⟩ = ⟨.error e, t, trace⟩) :
    (c.listen use (n + 1)).done s = ⟨.error e, t, pulling s.phase d ++ trace⟩ := by
  have hp := done_call (s := { s with phase := .listening }) h .pulled
  unfold listen
  rw [done_enter_bind, done_bind_of_ok hp]
  simp only [done_enter_bind, done_bind_of_error hd, Done.precede, pulling, List.append_assoc,
    List.cons_append, List.nil_append]

/-- A loop that goes on after a delivery has been dealt with. -/
theorem done_listen_of_handled (h : use.messaging.nextDelivery s.world = (.ok (some d), w))
    (hd : (c.process use d).done ⟨w, .processing, s.stats⟩ = ⟨.ok o, t, trace⟩) :
    (c.listen use (n + 1)).done s =
      ((c.listen use n).done t).precede (pulling s.phase d ++ trace) := by
  have hp := done_call (s := { s with phase := .listening }) h .pulled
  rw [listen]
  rw [done_enter_bind, done_bind_of_ok hp]
  simp only [done_enter_bind, done_bind_of_ok hd, Done.precede, pulling, List.append_assoc,
    List.cons_append, List.nil_append]

end

/-- **Induction on how listening goes.** -/
theorem listen_induction (c : Consumer) (use : Services σ)
    {motive : Nat → State σ → Done σ Unit → Prop}
    (stopped : ∀ s, motive 0 s ⟨.ok (), { s with phase := .listening },
      entering s.phase .listening ++ [.logged shutdownEntry]⟩)
    (failed : ∀ n s e w, use.messaging.nextDelivery s.world = (.error e, w) →
      motive (n + 1) s ⟨.error e, ⟨w, .listening, s.stats⟩,
        entering s.phase .listening ++ [.pulled (.error e)]⟩)
    (drained : ∀ n s w, use.messaging.nextDelivery s.world = (.ok none, w) →
      motive (n + 1) s ⟨.error (.connectionClosed c.queue), ⟨w, .listening, s.stats⟩,
        entering s.phase .listening ++ [.pulled (.ok none)]⟩)
    (refused : ∀ n s d w e t trace, use.messaging.nextDelivery s.world = (.ok (some d), w) →
      (c.process use d).done ⟨w, .processing, s.stats⟩ = ⟨.error e, t, trace⟩ →
      motive (n + 1) s ⟨.error e, t, pulling s.phase d ++ trace⟩)
    (handled : ∀ n s d w o t trace, use.messaging.nextDelivery s.world = (.ok (some d), w) →
      (c.process use d).done ⟨w, .processing, s.stats⟩ = ⟨.ok o, t, trace⟩ →
      motive n t ((c.listen use n).done t) →
      motive (n + 1) s (((c.listen use n).done t).precede (pulling s.phase d ++ trace))) :
    ∀ n s, motive n s ((c.listen use n).done s) := by
  intro n
  induction n with
  | zero => exact stopped
  | succ n ih =>
    intro s
    rcases h : use.messaging.nextDelivery s.world with ⟨_ | _ | d, w⟩
    · rw [done_listen_of_failed h]
      exact failed n s _ w h
    · rw [done_listen_of_drained h]
      exact drained n s w h
    · rcases hd : (c.process use d).done ⟨w, .processing, s.stats⟩ with ⟨_ | o, t, trace⟩
      · rw [done_listen_of_refused h hd]
        exact refused n s d w _ t trace h hd
      · rw [done_listen_of_handled h hd]
        exact handled n s d w o t trace h hd (ih t)

/-- The entry with which listening begins. -/
def waitingEntry (c : Consumer) (use : Services σ) : Log.Entry :=
  (event .info "Waiting for alerts"
    [("queue", .text c.queue), ("provider", .quoted use.messaging.provider),
      ("ack_mode", .text c.ackMode.text)]).entry

section
variable {c : Consumer} {use : Services σ} {s : State σ} {w : σ} {e : Messaging.Error}

/-- After the registration the loop begins. -/
theorem done_consume_of_registered
    (h : use.messaging.startConsuming c.queue s.world = (.ok (), w)) (n : Nat) :
    (c.consume use n).done s = ((c.listen use n).done { s with world := w }).precede
      [.startedConsuming c.queue (.ok ()), .logged (c.waitingEntry use)] := by
  unfold consume
  rw [done_bind_of_ok (done_call h _), done_log_bind, Done.precede_precede]
  rfl

/-- Where the registration fails nothing else is done. -/
theorem done_consume_of_unregistered
    (h : use.messaging.startConsuming c.queue s.world = (.error e, w)) (n : Nat) :
    (c.consume use n).done s =
      ⟨.error e, { s with world := w }, [.startedConsuming c.queue (.error e)]⟩ := by
  unfold consume
  rw [done_bind_of_error (done_call h _)]

end

/-- The answer to a run: of two failures the first one. -/
def verdict :
    Except Messaging.Error Unit → Except Messaging.Error Unit → Except Messaging.Error Unit
  | .error e, _ => .error e
  | .ok _, closed => closed

/-- The warning about a close that failed after a failure. -/
def closeWarning : Except Messaging.Error Unit → Except Messaging.Error Unit → Trace
  | .error _, .error late =>
    [.logged (event .warn "Close after failure also failed" [("error", .text late.message)]).entry]
  | _, _ => []

@[simp] theorem calls_closeWarning (consumed closed : Except Messaging.Error Unit) :
    Trace.calls (closeWarning consumed closed) = [] := by
  unfold closeWarning
  split <;> rfl

/-- **What closing leaves behind,** whatever came of consuming. -/
theorem done_finish (c : Consumer) (use : Services σ) (consumed : Except Messaging.Error Unit)
    (s : State σ) :
    (c.finish use consumed).done s =
      let (closed, w) := use.messaging.close s.world
      ⟨verdict consumed closed, ⟨w, .terminated, s.stats⟩,
        entering s.phase .terminated ++ .closed closed :: .logged (c.stopReport s.stats).entry ::
          closeWarning consumed closed⟩ := by
  rcases h : use.messaging.close s.world with ⟨closed, w⟩
  have hc := done_call (s := { s with phase := .terminated }) h .closed
  unfold finish
  rw [done_enter_bind, done_attempt_bind, hc, done_state_bind, done_log_bind]
  cases consumed <;> cases closed <;>
    simp [verdict, closeWarning, Done.precede, done_log_bind, done_fail, done_ofResult]

/-- Where closing succeeds, the answer is the one to consuming. -/
theorem done_finish_of_closed {c : Consumer} {use : Services σ}
    {consumed : Except Messaging.Error Unit} {s : State σ} {w : σ}
    (h : use.messaging.close s.world = (.ok (), w)) :
    (c.finish use consumed).done s = ⟨consumed, ⟨w, .terminated, s.stats⟩,
      entering s.phase .terminated ++
        [.closed (.ok ()), .logged (c.stopReport s.stats).entry]⟩ := by
  rw [done_finish, h]
  cases consumed <;> rfl

/-- **A run is consuming, and then the close** from the state that consuming leaves. -/
theorem done_run (c : Consumer) (use : Services σ) (n : Nat) (s : State σ) :
    (c.run use n).done s =
      ((c.finish use ((c.consume use n).done s).answer).done
        ((c.consume use n).done s).after).precede ((c.consume use n).done s).trace := rfl

/-- **A run that nobody asks to stop is like one that is asked too late.** -/
theorem eq_done_run_of_unasked {c : Consumer} {use : Services σ} {n : Nat} {s : State σ}
    {d : Done σ Unit} (h : c.runUnasked? use n s = some d) : d = (c.run use n).done s := by
  rw [done_run]
  unfold runUnasked? at h
  rcases hc : c.consume use n s with ⟨_ | _, t, trace⟩
  · rw [hc] at h
    simp only [Option.some.injEq] at h
    simp only [done, hc, Done.precede]
    exact h.symm
  · rw [hc] at h
    cases h

/-- **A run that nobody asks to stop is over once consuming has failed.** -/
theorem unasked_iff {c : Consumer} {use : Services σ} {n : Nat} {s : State σ} :
    (∃ d, c.runUnasked? use n s = some d) ↔ ∃ e, ((c.consume use n).done s).answer = .error e := by
  unfold runUnasked?
  rcases hc : c.consume use n s with ⟨e | _, t, trace⟩
  · simp [done, hc]
  · simp [done, hc]

/-- Whether `d` is what a run leaves behind that is asked to shut down after so
many looks, or never.  A request that arrives while a delivery is awaited has been
made by the look before, for then none is drawn. -/
def Ends (c : Consumer) (use : Services σ) (looks : Option Nat) (s : State σ)
    (d : Done σ Unit) : Prop :=
  match looks with
  | some n => d = (c.run use n).done s
  | none => ∃ n, c.runUnasked? use n s = some d

/-- Whether `calls` are the calls that such a run has made by some moment. -/
def Makes (c : Consumer) (use : Services σ) (looks : Option Nat) (s : State σ)
    (calls : Trace) : Prop :=
  match looks with
  | some n => calls <+: ((c.run use n).done s).trace.calls
  | none =>
    (∃ n, calls <+: ((c.consume use n).done s).trace.calls) ∨
      ∃ d, c.Ends use none s d ∧ calls <+: d.trace.calls

/-- **How a run may end:** as it does with so many looks, and if nobody asks it to stop,
then with a failure. -/
theorem ends_iff {c : Consumer} {use : Services σ} {looks : Option Nat} {s : State σ}
    {d : Done σ Unit} :
    c.Ends use looks s d ↔ ∃ n, d = (c.run use n).done s ∧
      (looks = some n ∨ looks = none ∧ ∃ e, ((c.consume use n).done s).answer = .error e) := by
  cases looks with
  | some n =>
    refine ⟨fun h => ⟨n, h, .inl rfl⟩, fun ⟨m, h, hm⟩ => ?_⟩
    obtain rfl : n = m := by simpa using hm
    exact h
  | none =>
    refine ⟨fun ⟨n, h⟩ => ⟨n, eq_done_run_of_unasked h, .inr ⟨rfl, unasked_iff.1 ⟨d, h⟩⟩⟩,
      fun ⟨n, h, hm⟩ => ?_⟩
    obtain ⟨-, he⟩ := hm.resolve_left (by simp)
    obtain ⟨d', h'⟩ := unasked_iff.2 he
    exact ⟨n, by rw [h', h, eq_done_run_of_unasked h']⟩

/-- What holds of all runs that are asked to stop holds of every run. -/
theorem Ends.exists_run {c : Consumer} {use : Services σ} {looks : Option Nat} {s : State σ}
    {d : Done σ Unit} (h : c.Ends use looks s d) : ∃ n, d = (c.run use n).done s := by
  cases looks with
  | some n => exact ⟨n, h⟩
  | none =>
    obtain ⟨n, h⟩ := h
    exact ⟨n, eq_done_run_of_unasked h⟩

/-- What has been called at some time while a run goes on is the beginning of what a run calls in
the end. -/
theorem Makes.exists_run {c : Consumer} {use : Services σ} {looks : Option Nat} {s : State σ}
    {calls : Trace} (h : c.Makes use looks s calls) :
    ∃ n, calls <+: ((c.run use n).done s).trace.calls := by
  cases looks with
  | some n => exact ⟨n, h⟩
  | none =>
    obtain ⟨n, h⟩ | ⟨d, hd, h⟩ := h
    · refine ⟨n, h.trans ?_⟩
      rw [done_run, Done.trace_precede, Trace.calls_append]
      exact List.prefix_append _ _
    · obtain ⟨n, rfl⟩ := hd.exists_run
      exact ⟨n, h⟩

end Consumer
end Remedy
