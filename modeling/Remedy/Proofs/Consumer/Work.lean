/-
# How pieces of work follow one another

A piece of work that is followed by another one either ends there, with its
failure, or hands its value on; what it did stands in front of the trace of the
rest (`Done.precede`).  The laws below say this for each of the primitive pieces, in
terms of what a piece leaves behind when it starts in a state (`Work.done`), so
that nothing else has to look inside a `Work`.

`Trace.calls` keeps of a trace the calls of the services: neither the phases nor
the log entries.
-/

import Remedy.Consumer.Run

namespace Remedy
namespace Consumer

variable {σ α β : Type}

/-- What is left behind if some activities come first. -/
def Done.precede (t : Trace) (d : Done σ α) : Done σ α := { d with trace := t ++ d.trace }

@[simp] theorem Done.answer_precede (t : Trace) (d : Done σ α) :
    (d.precede t).answer = d.answer := rfl

@[simp] theorem Done.after_precede (t : Trace) (d : Done σ α) :
    (d.precede t).after = d.after := rfl

@[simp] theorem Done.trace_precede (t : Trace) (d : Done σ α) :
    (d.precede t).trace = t ++ d.trace := rfl

/-- What precedes what precedes is in front of it. -/
theorem Done.precede_precede (t u : Trace) (d : Done σ α) :
    (d.precede u).precede t = d.precede (t ++ u) := by
  simp only [precede, List.append_assoc]

/-- What entering a phase leaves in the trace. -/
def entering (old new : Phase) : Trace :=
  .entered new :: if old = new then [] else [.logged (Work.transitionEvent old new).entry]

namespace Work

/-- What a piece of work leaves behind when it starts in a state. -/
def done (x : Work σ α) (s : State σ) : Done σ α := x s

/-- **Work that succeeds hands its value on.** -/
theorem done_bind_of_ok {x : Work σ α} {s t : State σ} {a : α} {trace : Trace}
    (h : x.done s = ⟨.ok a, t, trace⟩) (f : α → Work σ β) :
    (x >>= f).done s = ((f a).done t).precede trace := by
  have h' : x s = ⟨.ok a, t, trace⟩ := h
  show andThen x f s = _
  simp only [andThen, h', Done.precede, done]

/-- **Work that fails is the end.** -/
theorem done_bind_of_error {x : Work σ α} {s t : State σ} {e : Messaging.Error} {trace : Trace}
    (h : x.done s = ⟨.error e, t, trace⟩) (f : α → Work σ β) :
    (x >>= f).done s = ⟨.error e, t, trace⟩ := by
  have h' : x s = ⟨.error e, t, trace⟩ := h
  show andThen x f s = _
  simp only [andThen, h']

/-- What comes of a value. -/
theorem done_pure (a : α) (s : State σ) : (pure a : Work σ α).done s = ⟨.ok a, s, []⟩ := rfl

/-- What comes of a failure. -/
theorem done_fail (e : Messaging.Error) (s : State σ) :
    (fail e : Work σ α).done s = ⟨.error e, s, []⟩ := rfl

/-- What comes of a result. -/
theorem done_ofResult (r : Except Messaging.Error α) (s : State σ) :
    (ofResult r).done s = ⟨r, s, []⟩ := by
  cases r <;> rfl

/-- A log entry comes before the rest. -/
theorem done_log_bind (entry : Log.Entry) (f : Unit → Work σ β) (s : State σ) :
    (log entry >>= f).done s = ((f ()).done s).precede [.logged entry] := rfl

/-- The rest is done with the new counts. -/
theorem done_count_bind (g : Stats → Stats) (f : Unit → Work σ β) (s : State σ) :
    (count g >>= f).done s = (f ()).done { s with stats := g s.stats } := rfl

/-- A phase is entered before the rest, which is done in it. -/
theorem done_enter_bind (p : Phase) (f : Unit → Work σ β) (s : State σ) :
    (enter p >>= f).done s =
      ((f ()).done { s with phase := p }).precede (entering s.phase p) := rfl

/-- The rest is done with the state. -/
theorem done_state_bind (f : State σ → Work σ β) (s : State σ) :
    (state >>= f).done s = (f s).done s := rfl

/-- An attempt goes on whatever came of it. -/
theorem done_attempt_bind (x : Work σ α) (f : Except Messaging.Error α → Work σ β)
    (s : State σ) :
    (attempt x >>= f).done s =
      ((f (x.done s).answer).done (x.done s).after).precede (x.done s).trace := rfl

/-- An execution comes before the rest: what it tells, then itself. -/
theorem done_execute_bind (x : Execution.Executor σ) (span : Log.Span) (a : Command.Action)
    (f : Except Execution.Failure Execution.Result → Work σ β) (s : State σ) :
    (execute x span a >>= f).done s =
      let report := x.execute a s.world
      ((f report.outcome).done { s with world := report.after }).precede
        (.executed a report.outcome :: report.events.map fun e => .logged (e.within span)) := rfl

/-- A call ends as its answer says, whatever the service does to its state. -/
theorem done_call {g : σ → Except Messaging.Error α × σ} {s : State σ}
    {r : Except Messaging.Error α} {w : σ} (h : g s.world = (r, w))
    (activity : Except Messaging.Error α → Activity) :
    (call g activity).done s = ⟨r, { s with world := w }, [activity r]⟩ := by
  simp only [done, call, h]

end Work

/-- Whether an activity is a call of a service. -/
def Activity.isCall : Activity → Bool
  | .entered _ => false
  | .logged _ => false
  | _ => true

/-- The calls of the services in a trace. -/
def Trace.calls (t : Trace) : Trace := t.filter Activity.isCall

namespace Trace

@[simp] theorem calls_nil : calls [] = [] := rfl

@[simp] theorem calls_append (t u : Trace) : calls (t ++ u) = t.calls ++ u.calls :=
  List.filter_append _ _

@[simp] theorem calls_cons_logged (e : Log.Entry) (t : Trace) :
    calls (.logged e :: t) = t.calls := rfl

@[simp] theorem calls_cons_entered (p : Phase) (t : Trace) :
    calls (.entered p :: t) = t.calls := rfl

/-- A call is one of the calls. -/
theorem calls_cons {a : Activity} (h : a.isCall = true) (t : Trace) :
    calls (a :: t) = a :: t.calls := List.filter_cons_of_pos h

@[simp] theorem calls_map_logged {ι : Type} (f : ι → Log.Entry) (l : List ι) :
    calls (l.map fun i => .logged (f i)) = [] := by
  induction l with
  | nil => rfl
  | cons i l ih => simpa using ih

@[simp] theorem calls_entering (old new : Phase) : calls (entering old new) = [] := by
  unfold entering
  split <;> rfl

end Trace
end Consumer
end Remedy
