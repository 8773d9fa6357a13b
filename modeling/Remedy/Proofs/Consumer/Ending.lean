/-
# How a run ends

Consuming is ended by one activity, the first one that can end it, and what it answers is
what that activity says: the failure of a call, the end of the stream of deliveries, or
the request to shut down (`Activity.ending?`).  After it the consumer is terminated, the
service is closed, and nothing else is called (`Exit`).  Of two failures the first one is
answered, so that the answer to closing counts only where consuming was not ended by a
failure; such a run has acknowledged all that it has drawn
(`closes_once_and_answers_first`).
-/

import Remedy.Proofs.Consumer.Transitions

namespace Remedy
namespace Consumer

open Messaging (Delivery Receipt)
open Work

variable {σ : Type}

/-- What consuming answers if an activity ends it. -/
def Activity.ending? (queue : String) : Activity → Option (Except Messaging.Error Unit)
  | .startedConsuming _ (.error e) => some (.error e)
  | .pulled (.error e) => some (.error e)
  | .pulled (.ok none) => some (.error (.connectionClosed queue))
  | .acknowledged _ (.error e) => some (.error e)
  | .logged entry => if entry = shutdownEntry then some (.ok ()) else none
  | _ => none

/-- Whether consuming goes on after an activity, and the service is still open. -/
def Activity.GoesOn (queue : String) (a : Activity) : Prop :=
  a.ending? queue = none ∧ ∀ r, a ≠ .closed r

namespace Activity

variable {queue : String}

/-- The entry on a shutdown ends consuming well. -/
theorem ending?_shutdownEntry :
    (Activity.logged shutdownEntry).ending? queue = some (.ok ()) := by
  unfold ending?
  exact if_pos rfl

/-- No other entry ends it. -/
theorem ending?_logged {e : Log.Entry} (h : e ≠ shutdownEntry) :
    (Activity.logged e).ending? queue = none := if_neg h

/-- Other entries let it go on. -/
theorem goesOn_logged {e : Log.Entry} (h : e ≠ shutdownEntry) :
    (Activity.logged e).GoesOn queue :=
  ⟨ending?_logged h, fun r hr => by cases hr⟩

/-- Other events do not end consuming. -/
theorem goesOn_event {level : Log.Level} {message : String}
    (h : message ≠ "Shutdown requested while listening") (fields : Log.Fields) :
    (Activity.logged (event level message fields).entry).GoesOn queue :=
  goesOn_logged fun he => h (congrArg (·.event.message) he)

/-- Entering a phase lets consuming go on. -/
theorem goesOn_of_mem_entering {old new : Phase} {a : Activity} (h : a ∈ entering old new) :
    a.GoesOn queue := by
  unfold entering at h
  rcases List.mem_cons.1 h with rfl | h
  · exact ⟨rfl, fun r hr => by cases hr⟩
  · split at h
    · cases h
    · rw [List.mem_singleton.1 h]
      exact goesOn_logged fun he => by cases congrArg (·.event.level) he

/-- Pulling a delivery lets consuming go on. -/
theorem goesOn_of_mem_pulling {old : Phase} {d : Delivery} {a : Activity}
    (h : a ∈ pulling old d) : a.GoesOn queue := by
  rcases List.mem_append.1 h with h | h
  · exact goesOn_of_mem_entering h
  · rcases List.mem_cons.1 h with rfl | h
    · exact ⟨rfl, fun r hr => by cases hr⟩
    · exact goesOn_of_mem_entering h

/-- Of the work on a delivery only a refused acknowledgment ends consuming. -/
theorem goesOn_of_isInside {a : Activity} (h : a.isInside = true) (hr : a.isRefusal = false) :
    a.GoesOn queue := by
  cases a with
  | acknowledged receipt r =>
    rcases r with e | _
    · cases hr
    · exact ⟨rfl, fun r hr => by cases hr⟩
  | executed action r => exact ⟨rfl, fun r hr => by cases hr⟩
  | logged e =>
    refine goesOn_logged fun he => ?_
    rw [he] at h
    cases h
  | _ => cases h

end Activity

section
variable {c : Consumer} {use : Services σ} {d : Delivery} {s t : State σ} {o : Outcome}
  {e : Messaging.Error} {trace : Trace}

/-- Work on a delivery whose acknowledgment is not refused does not end consuming. -/
theorem goesOn_of_handled (hd : (c.process use d).done s = ⟨.ok o, t, trace⟩) {a : Activity}
    (ha : a ∈ trace) : a.GoesOn c.queue := by
  have hin := isInside_process c use d s
  rw [hd] at hin
  refine Activity.goesOn_of_isInside (hin a ha) ?_
  have hnone := List.countP_eq_zero.1 (refusals_of_handled hd) a ha
  exact Bool.eq_false_iff.2 hnone

/-- **A refused acknowledgment is the end of the work on its delivery,** and nothing before
it ends consuming. -/
theorem eq_append_of_refused (hd : (c.process use d).done s = ⟨.error e, t, trace⟩) :
    ∃ before, trace = before ++ [.acknowledged d.receipt (.error e)] ∧
      ∀ a ∈ before, a.GoesOn c.queue := by
  have hlast : ∃ before, trace = before ++ [.acknowledged d.receipt (.error e)] := by
    revert hd
    refine process_cases c use d s (motive := fun x => x = ⟨.error e, t, trace⟩ → _) ?_ ?_ ?_ ?_
    case refine_1 =>
      rintro e w - - hd
      cases hd
      exact ⟨[_], rfl⟩
    case refine_2 =>
      intro w _ _ x hd
      cases hd
    case refine_3 =>
      rintro e w - x - hd
      cases hd
      exact ⟨_ :: _, rfl⟩
    case refine_4 =>
      intro w _ x _ hd
      cases hd
  have hin := isInside_process c use d s
  rw [hd] at hin
  obtain ⟨before, rfl⟩ := hlast
  refine ⟨before, rfl, fun a ha => ?_⟩
  -- there is one refusal in all, and so there is none before the last activity
  have hone := (refusals_of_refused hd).1
  rw [Trace.refusals_append, Trace.refusals_cons_refusal, Trace.refusals_nil] at hone
  have hnone := List.countP_eq_zero.1 (by omega : Trace.refusals before = 0) a ha
  exact Activity.goesOn_of_isInside (hin a (List.mem_append_left _ ha))
    (Bool.eq_false_iff.2 hnone)

end

/-! ### Consuming -/

/-- **Whether consuming was ended by the last activity in its trace,** and by none before.
A request to shut down ends it while it listens, at the look after so many deliveries. -/
def Ended (queue : String) (p : Phase) (looks : Nat) (d : Done σ Unit) : Prop :=
  ∃ (before : Trace) (last : Activity), d.trace = before ++ [last] ∧
    (∀ a ∈ before, a.GoesOn queue) ∧ last.ending? queue = some d.answer ∧
    (d.answer = .ok () → before.phaseFrom p = .listening ∧ before.deliveries.length = looks)

/-- What goes on before a part of a run does not end it. -/
theorem Ended.precede {queue : String} {p : Phase} {n : Nat} {d : Done σ Unit} {t : Trace}
    (h : Ended queue (t.phaseFrom p) n d) (ht : ∀ a ∈ t, a.GoesOn queue) :
    Ended queue p (t.deliveries.length + n) (d.precede t) := by
  obtain ⟨before, last, htrace, hbefore, hlast, hok⟩ := h
  refine ⟨t ++ before, last, ?_, fun a ha => ?_, hlast, fun he => ?_⟩
  · rw [Done.trace_precede, htrace, List.append_assoc]
  · exact (List.mem_append.1 ha).elim (ht a) (hbefore a)
  · obtain ⟨hphase, hdrawn⟩ := hok he
    refine ⟨by rw [Trace.phaseFrom_append, hphase], ?_⟩
    rw [Trace.deliveries_append, List.length_append, hdrawn]

section
variable (c : Consumer) (use : Services σ)

/-- **How the loop ends,** by induction on how it goes. -/
theorem ended_listen (n : Nat) (s : State σ) :
    Ended c.queue s.phase n ((c.listen use n).done s) := by
  refine listen_induction c use (motive := fun n s d => Ended c.queue s.phase n d)
    ?_ ?_ ?_ ?_ ?_ n s
  case refine_1 =>
    intro s
    exact ⟨_, _, rfl, fun a => Activity.goesOn_of_mem_entering, Activity.ending?_shutdownEntry,
      fun _ => ⟨Trace.phaseFrom_entering .., by rw [Trace.deliveries_entering]; rfl⟩⟩
  case refine_2 =>
    intro n s e w h
    exact ⟨_, _, rfl, fun a => Activity.goesOn_of_mem_entering, rfl, fun he => by cases he⟩
  case refine_3 =>
    intro n s w h
    exact ⟨_, _, rfl, fun a => Activity.goesOn_of_mem_entering, rfl, fun he => by cases he⟩
  case refine_4 =>
    intro n s d w e t trace h hd
    obtain ⟨before, rfl, hbefore⟩ := eq_append_of_refused hd
    refine ⟨pulling s.phase d ++ before, _, (List.append_assoc ..).symm, fun a ha => ?_, rfl,
      fun he => by cases he⟩
    exact (List.mem_append.1 ha).elim Activity.goesOn_of_mem_pulling (hbefore a)
  case refine_5 =>
    intro n s d w o t trace h hd ih
    have hround := round_process hd s.phase
    have hone : (pulling s.phase d ++ trace).deliveries.length = 1 := by
      rw [hround.deliveries]
      rfl
    have hgo : ∀ a ∈ pulling s.phase d ++ trace, a.GoesOn c.queue := fun a ha =>
      (List.mem_append.1 ha).elim Activity.goesOn_of_mem_pulling (goesOn_of_handled hd)
    -- what is left of the looks is counted from the phase in which the round ends
    rw [← hround.phase s.phase] at ih
    rw [Nat.add_comm n 1, ← hone]
    exact ih.precede hgo

/-- How consuming ends: as the loop does, or where the registration fails. -/
theorem ended_consume (n : Nat) (s : State σ) :
    Ended c.queue s.phase n ((c.consume use n).done s) := by
  rcases h : use.messaging.startConsuming c.queue s.world with ⟨e | _, w⟩
  · rw [done_consume_of_unregistered h]
    refine ⟨[], _, rfl, fun a ha => ?_, rfl, fun he => ?_⟩
    · cases ha
    · cases he
  · rw [done_consume_of_registered h]
    have hgo : ∀ a ∈ ([.startedConsuming c.queue (.ok ()), .logged (c.waitingEntry use)] : Trace),
        a.GoesOn c.queue := by
      intro a ha
      rcases List.mem_cons.1 ha with rfl | ha
      · exact ⟨rfl, fun r hr => by cases hr⟩
      · rw [List.mem_singleton.1 ha]
        exact Activity.goesOn_event (by decide) _
    have hlisten := (ended_listen c use n { s with world := w }).precede hgo
    rwa [show List.length _ = 0 from rfl, Nat.zero_add] at hlisten

end

/-! ### Closing -/

/-- **How a run ends.**  The activity that ends consuming stands between what goes before
it and what closing leaves behind. -/
structure Exit (c : Consumer) (looks : Option Nat) (p : Phase) (d : Done σ Unit)
    (before : Trace) (last : Activity) (consumed closed : Except Messaging.Error Unit) :
    Prop where
  trace : d.trace = before ++ last :: (entering (before.phaseFrom p) .terminated ++
    .closed closed :: .logged (c.stopReport d.after.stats).entry :: closeWarning consumed closed)
  /-- Consuming goes on until then. -/
  goes_on : ∀ a ∈ before, a.ending? c.queue = none
  ended : last.ending? c.queue = some consumed
  /-- The service is closed once, after all other calls. -/
  closed_once : d.trace.calls = Trace.calls (before ++ [last]) ++ [.closed closed] ∧
    ∀ r, .closed r ∉ before ++ [last]
  /-- It is closed when the consumer is terminated. -/
  terminated : ((before ++ [last]) ++ entering (before.phaseFrom p) .terminated).phaseFrom p =
    .terminated
  /-- Of two failures the first one is answered. -/
  first_error : ∀ e, consumed = .error e → d.answer = .error e
  close_error : consumed = .ok () → d.answer = closed
  /-- A request to shut down is seen while listening, once all that was drawn is done. -/
  shutdown : consumed = .ok () → last = .logged shutdownEntry ∧
    before.phaseFrom p = .listening ∧ looks = some before.deliveries.length

section
variable {queue : String} {a : Activity} {r : Except Messaging.Error Unit}

/-- Only the entry on a shutdown ends consuming well. -/
theorem eq_shutdownEntry_of_ending? (h : a.ending? queue = some (.ok ())) :
    a = .logged shutdownEntry := by
  unfold Activity.ending? at h
  split at h
  · cases h
  · cases h
  · cases h
  · cases h
  · split at h
    · next entry he => rw [he]
    · cases h
  · cases h

/-- What ends consuming enters no phase. -/
theorem phaseFrom_ended (h : a.ending? queue = some r) (t : Trace) (p : Phase) :
    (t ++ [a]).phaseFrom p = t.phaseFrom p := by
  rw [Trace.phaseFrom_append]
  refine Trace.phaseFrom_of_phases_eq_nil ?_ _
  cases a with
  | entered q => cases h
  | _ => rfl

/-- What ends consuming does not close the service. -/
theorem closed_not_mem_ended {t : Trace} (ht : ∀ a ∈ t, a.GoesOn queue)
    (h : a.ending? queue = some r) (closed : Except Messaging.Error Unit) :
    .closed closed ∉ t ++ [a] := by
  intro hmem
  rcases List.mem_append.1 hmem with hmem | hmem
  · exact (ht _ hmem).2 _ rfl
  · rw [← List.mem_singleton.1 hmem] at h
    cases h

end

/-- **Every run has such an end.** -/
theorem Ends.exists_exit {c : Consumer} {use : Services σ} {looks : Option Nat} {s : State σ}
    {d : Done σ Unit} (h : c.Ends use looks s d) :
    ∃ before last consumed closed, Exit c looks s.phase d before last consumed closed := by
  obtain ⟨n, rfl, hlooks⟩ := ends_iff.1 h
  obtain ⟨before, last, htrace, hbefore, hlast, hok⟩ := ended_consume c use n s
  have hphase : _ = Trace.phaseFrom _ _ := (told_consume c use n s).phase
  rw [htrace, phaseFrom_ended hlast] at hphase
  rcases hclose : use.messaging.close ((c.consume use n).done s).after.world with ⟨closed, w⟩
  have hrun := done_run c use n s
  rw [done_finish, hclose, hphase, htrace] at hrun
  refine ⟨before, last, ((c.consume use n).done s).answer, closed, ?_⟩
  refine
    { trace := ?trace
      goes_on := fun a ha => (hbefore a ha).1
      ended := hlast
      closed_once := ⟨?calls, closed_not_mem_ended hbefore hlast⟩
      terminated := ?terminated
      first_error := fun e he => ?first
      close_error := fun he => ?close
      shutdown := fun he => ?shutdown }
  case trace =>
    rw [hrun, Done.trace_precede, List.append_assoc]
    rfl
  case calls =>
    rw [hrun, Done.trace_precede, Trace.calls_append _ (_ ++ _), Trace.calls_append (entering ..),
      Trace.calls_entering, Trace.calls_cons rfl, Trace.calls_cons_logged, calls_closeWarning]
    rfl
  case terminated => rw [Trace.phaseFrom_append, Trace.phaseFrom_entering]
  case first =>
    rw [hrun, he]
    rfl
  case close =>
    rw [hrun, he]
    rfl
  case shutdown =>
    rw [he] at hlast
    obtain ⟨hlistening, hdrawn⟩ := hok he
    refine ⟨eq_shutdownEntry_of_ending? hlast, hlistening, ?_⟩
    rcases hlooks with rfl | ⟨-, e, herror⟩
    · rw [hdrawn]
    · rw [he] at herror
      cases herror

section
variable {c : Consumer} {looks : Option Nat} {p : Phase} {d : Done σ Unit} {before : Trace}
  {last : Activity} {consumed closed : Except Messaging.Error Unit}

/-- **A run is answered well** just if consuming and the close go well. -/
theorem Exit.answer_eq_ok_iff (h : Exit c looks p d before last consumed closed) :
    d.answer = .ok () ↔ consumed = .ok () ∧ closed = .ok () := by
  rcases consumed with e | _
  · rw [h.first_error e rfl]
    simp
  · rw [h.close_error rfl]
    simp

/-- There is no other close in the trace than the one that is answered for. -/
theorem Exit.closed_mem_iff (h : Exit c looks p d before last consumed closed)
    {r : Except Messaging.Error Unit} : .closed r ∈ d.trace ↔ r = closed := by
  obtain ⟨hcalls, hopen⟩ := h.closed_once
  refine ⟨fun hmem => ?_, fun hr => ?_⟩
  · have hcall : .closed r ∈ d.trace.calls := List.mem_filter.2 ⟨hmem, rfl⟩
    rw [hcalls] at hcall
    rcases List.mem_append.1 hcall with hcall | hcall
    · exact absurd (List.mem_filter.1 hcall).1 (hopen r)
    · exact Activity.closed.inj (List.mem_singleton.1 hcall)
  · rw [h.trace, hr]
    simp

/-- What closing leaves behind does not tell of a request to shut down. -/
theorem shutdownEntry_not_mem_closing (old : Phase) (stats : Stats) :
    .logged shutdownEntry ∉ entering old .terminated ++
      .closed closed :: .logged (c.stopReport stats).entry :: closeWarning consumed closed := by
  have hgo : ∀ {a : Activity}, a.GoesOn c.queue → a ≠ .logged shutdownEntry := by
    rintro a ⟨hnone, -⟩ rfl
    rw [Activity.ending?_shutdownEntry] at hnone
    cases hnone
  intro hmem
  rcases List.mem_append.1 hmem with hmem | hmem
  · exact hgo (Activity.goesOn_of_mem_entering hmem) rfl
  · rcases List.mem_cons.1 hmem with heq | hmem
    · cases heq
    · rcases List.mem_cons.1 hmem with heq | hmem
      · exact hgo (Activity.goesOn_event (by decide) _) heq.symm
      · unfold closeWarning at hmem
        split at hmem
        · exact hgo (Activity.goesOn_event (by decide) _) (List.mem_singleton.1 hmem).symm
        · cases hmem

/-- A request to shut down is told of if and only if it ended consuming. -/
theorem Exit.shutdownEntry_mem_iff (h : Exit c looks p d before last consumed closed) :
    .logged shutdownEntry ∈ d.trace ↔ consumed = .ok () := by
  refine ⟨fun hmem => ?_, fun he => ?_⟩
  · rw [h.trace] at hmem
    rcases List.mem_append.1 hmem with hmem | hmem
    · have hnone := h.goes_on _ hmem
      rw [Activity.ending?_shutdownEntry] at hnone
      cases hnone
    · rcases List.mem_cons.1 hmem with hlast | hmem
      · have hended := h.ended
        rw [← hlast, Activity.ending?_shutdownEntry] at hended
        exact (Option.some.inj hended).symm
      · exact absurd hmem (shutdownEntry_not_mem_closing _ _)
  · rw [h.trace, (h.shutdown he).1]
    simp

end

/-- Among the calls that deal with a delivery is its acknowledgment. -/
theorem Handles.acknowledged_mem {c : Consumer} {d : Delivery} {r : Except Messaging.Error Unit}
    {calls : Trace} (h : Handles c d r calls) : .acknowledged d.receipt r ∈ calls := by
  rcases h.cases_mode with ⟨-, acts, rfl, -⟩ | ⟨-, acts, -, rfl⟩
  · exact List.mem_cons_self ..
  · exact List.mem_append_right _ (List.mem_singleton.2 rfl)

/-- **Where nothing was refused, all that was drawn was acknowledged.** -/
theorem acknowledged_of_refusals_eq_zero {c : Consumer} {use : Services σ} {n : Nat} {s : State σ}
    {before after : Trace} {d : Delivery} (hr : ((c.run use n).done s).trace.refusals = 0)
    (h : ((c.run use n).done s).trace = before ++ .pulled (.ok (some d)) :: after) :
    .acknowledged d.receipt (.ok ()) ∈ after := by
  have hcalls : ((c.run use n).done s).trace.calls =
      before.calls ++ .pulled (.ok (some d)) :: after.calls := by
    rw [h, Trace.calls_append, Trace.calls_cons rfl]
  obtain ⟨r, hw⟩ := (disciplined_run c use n s).handles_each _ _ _ hcalls
  have hmem : .acknowledged d.receipt r ∈ after :=
    (List.mem_filter.1 ((List.takeWhile_prefix _).subset hw.acknowledged_mem)).1
  rcases r with e | _
  · refine absurd hr (Trace.refusals_ne_zero_iff.2 ⟨d.receipt, e, ?_⟩)
    rw [h]
    exact List.mem_append_right _ (List.mem_cons_of_mem _ hmem)
  · exact hmem

/-- **A run closes the service once, and answers the first error,** whatever the services
do and whenever it is asked to stop, if it ends.  It succeeds exactly if it was ended by a
request to shut down and closing succeeded, and then all that it has drawn was
acknowledged. -/
theorem closes_once_and_answers_first {c : Consumer} {use : Services σ} {looks : Option Nat}
    {s : State σ} {d : Done σ Unit} (h : c.Ends use looks s d) :
    (∃ before last consumed closed, Exit c looks s.phase d before last consumed closed) ∧
    (d.answer = .ok () ↔ .logged shutdownEntry ∈ d.trace ∧ .closed (.ok ()) ∈ d.trace) ∧
    (d.answer = .ok () → ∀ before delivery after,
      d.trace = before ++ .pulled (.ok (some delivery)) :: after →
        .acknowledged delivery.receipt (.ok ()) ∈ after) := by
  obtain ⟨before, last, consumed, closed, hexit⟩ := h.exists_exit
  refine ⟨⟨before, last, consumed, closed, hexit⟩, ?_, fun hok before delivery after htrace => ?_⟩
  · rw [hexit.answer_eq_ok_iff, hexit.shutdownEntry_mem_iff, hexit.closed_mem_iff,
      eq_comm (b := closed)]
  · obtain ⟨n, rfl⟩ := h.exists_run
    refine acknowledged_of_refusals_eq_zero ?_ htrace
    obtain ⟨hle, hends⟩ := refusals_run c use n s
    by_contra hne
    obtain ⟨-, -, e, -, -, he⟩ := hends.1 (by omega)
    rw [hok] at he
    cases he

/-- A run that is asked to stop after one delivery. -/
theorem closes_once_and_answers_first_of_shutdown :
    let c : Consumer := ⟨⟨⟨⟨"", .empty⟩, ["a"]⟩, .standard⟩, "alerts", .onReceipt⟩
    let use : Services Messaging.Connection := ⟨.inMemory, ⟨fun _ w => ⟨.ok (.ofExitStatus 0 0), w, []⟩⟩⟩
    let b : Messaging.Broker :=
      { Messaging.Broker.empty with queues := [("alerts", [⟨[97], false⟩, ⟨[97], false⟩])] }
    ∃ d, c.Ends use (some 1) (.initial ⟨b, none⟩) d ∧ d.answer = .ok () ∧
      .logged shutdownEntry ∈ d.trace ∧
      ∃ before delivery after, d.trace = before ++ .pulled (.ok (some delivery)) :: after ∧
        .acknowledged delivery.receipt (.ok ()) ∈ after := by
  intro c use b
  have hends : c.Ends use (some 1) (.initial ⟨b, none⟩) ((c.run use 1).done (.initial ⟨b, none⟩)) :=
    rfl
  obtain ⟨-, hok, hall⟩ := closes_once_and_answers_first hends
  have hanswer : ((c.run use 1).done (.initial ⟨b, none⟩)).answer = .ok () := by decide
  have hone : ((c.run use 1).done (.initial ⟨b, none⟩)).trace.deliveries =
      [⟨.ofTag 1, [97], false⟩] := by decide
  obtain ⟨before, after, htrace⟩ := List.append_of_mem
    (Trace.mem_deliveries.1 (hone ▸ List.mem_singleton_self _))
  exact ⟨_, hends, hanswer, (hok.1 hanswer).1, before, _, after, htrace,
    hall hanswer _ _ _ htrace⟩

end Consumer
end Remedy
