/-
# Which outcomes are reported

An outcome is counted as soon as it is known and reported at the very end of the work on
its delivery.  On receipt nothing can fail in between.  After execution the
acknowledgment stands in between: if it is refused, the outcome has been counted and is
not reported (`unreported_after_refusal`), although it is only the reports that tell of
failed remediations.  All other outcomes are reported, in the order in which they are
counted (`outcomes_reported`).

`counted?` is the outcome that is counted for a delivery and `Consumer.outcomes` are
those of a run.  `Reported` compares them with the reports in a trace; it composes as
long as nothing is refused (`Reported.append`).
-/

import Remedy.Proofs.Consumer.Counting
import Remedy.Proofs.Execution.Launching

namespace Remedy

/-- The status that an event tells. -/
def Log.Event.status? (e : Log.Event) : Option Log.Value := e.fields.lookup "status"

namespace Consumer

open Messaging (Delivery Receipt)
open Work

variable {σ : Type}

/-- The report on an outcome that an activity writes, if it writes one. -/
def Activity.report? : Activity → Option Log.Event
  | .logged e => if e.event.message = Log.remediationMessage then some e.event else none
  | _ => none

/-- The reports on outcomes in a trace. -/
def Trace.reports (t : Trace) : List Log.Event := t.filterMap Activity.report?

namespace Trace

@[simp] theorem reports_nil : reports [] = [] := rfl

@[simp] theorem reports_append (t u : Trace) : reports (t ++ u) = t.reports ++ u.reports :=
  List.filterMap_append

@[simp] theorem reports_cons_acknowledged (receipt : Receipt) (r : Except Messaging.Error Unit)
    (t : Trace) : reports (.acknowledged receipt r :: t) = t.reports := rfl

@[simp] theorem reports_cons_pulled (r : Except Messaging.Error (Option Delivery)) (t : Trace) :
    reports (.pulled r :: t) = t.reports := rfl

@[simp] theorem reports_cons_started (queue : String) (r : Except Messaging.Error Unit)
    (t : Trace) : reports (.startedConsuming queue r :: t) = t.reports := rfl

@[simp] theorem reports_cons_closed (r : Except Messaging.Error Unit) (t : Trace) :
    reports (.closed r :: t) = t.reports := rfl

@[simp] theorem reports_cons_executed (a : Command.Action)
    (r : Except Execution.Failure Execution.Result) (t : Trace) :
    reports (.executed a r :: t) = t.reports := rfl

@[simp] theorem reports_cons_entered (p : Phase) (t : Trace) :
    reports (.entered p :: t) = t.reports := rfl

/-- Other entries are no reports. -/
theorem reports_cons_logged {e : Log.Entry} (h : e.event.message ≠ Log.remediationMessage)
    (t : Trace) : reports (.logged e :: t) = t.reports :=
  List.filterMap_cons_none (if_neg h)

/-- An event with another message is no report. -/
theorem reports_cons_event (level : Log.Level) {message : String}
    (h : message ≠ Log.remediationMessage) (fields : Log.Fields) (t : Trace) :
    reports (.logged (event level message fields).entry :: t) = t.reports :=
  reports_cons_logged h t

/-- Among the entries about a delivery only one kind reports. -/
theorem reports_cons_entryOf (d : Delivery) (level : Log.Level) {message : String}
    (h : message ≠ Log.remediationMessage) (fields : Log.Fields) (t : Trace) :
    reports (.logged (entryOf d level message fields) :: t) = t.reports := reports_cons_logged h t

@[simp] theorem reports_cons_receivedEntry (d : Delivery) (t : Trace) :
    reports (.logged (receivedEntry d) :: t) = t.reports :=
  reports_cons_entryOf d _ (by decide) _ t

@[simp] theorem reports_cons_acknowledgedEntry (d : Delivery) (t : Trace) :
    reports (.logged (acknowledgedEntry d) :: t) = t.reports :=
  reports_cons_entryOf d _ (by decide) _ t

@[simp] theorem reports_cons_outcomeEntry (d : Delivery) (o : Outcome) (t : Trace) :
    reports (.logged (outcomeEntry d o) :: t) = outcomeReport d o :: t.reports := rfl

@[simp] theorem reports_entering (old new : Phase) : reports (entering old new) = [] := by
  unfold entering
  split
  · rfl
  · exact reports_cons_logged (e := (transitionEvent old new).entry)
      (show "Consumer state transition" ≠ Log.remediationMessage by decide) []

@[simp] theorem reports_pulling (old : Phase) (d : Delivery) : reports (pulling old d) = [] := by
  simp [pulling]

end Trace

/-- **The report on an outcome tells its status.** -/
theorem status?_outcomeReport (d : Delivery) (o : Outcome) :
    (outcomeReport d o).status? = some (.text o.status) := by
  unfold Log.Event.status? outcomeReport Log.remediation
  cases serviceOf d o <;> rfl

/-- Whether an executor leaves the reports to the consumer. -/
def Discreet (x : Execution.Executor σ) : Prop :=
  ∀ a w, ∀ e ∈ (x.execute a w).events, e.message ≠ Log.remediationMessage

/-- Running actions as processes reports no outcomes. -/
theorem discreet_launcher (l : Execution.Launcher) (files : Host.FileSystem) :
    Discreet (l.executor files : Execution.Executor σ) := by
  have hannounced : ∀ a, (l.announcement a).message ≠ Log.remediationMessage := fun a =>
    show "Spawning remediation command" ≠ Log.remediationMessage by decide
  have hsummary : ∀ a r output errors,
      (Execution.Launcher.summary a r output errors).message ≠ Log.remediationMessage := by
    intro a r output errors
    unfold Execution.Launcher.summary
    split
    · exact show "Remediation command succeeded" ≠ Log.remediationMessage by decide
    · exact show "Remediation command exited non-zero" ≠ Log.remediationMessage by decide
  have hrun : ∀ a, ∀ e ∈ (l.run files a).2, e.message ≠ Log.remediationMessage := by
    intro a e he
    obtain ⟨failure, hfailed⟩ | ⟨r, output, errors, hended⟩ := l.events_run files a
    · rw [hfailed, List.mem_singleton] at he
      exact he ▸ hannounced a
    · rw [hended] at he
      rcases List.mem_cons.1 he with rfl | he
      · exact hannounced a
      · exact List.mem_singleton.1 he ▸ hsummary a r output errors
  intro a w e he
  unfold Execution.Launcher.executor at he
  exact hrun a e he

/-- **A decision reports nothing** if the executor does not. -/
theorem reports_decision {c : Consumer} {use : Services σ} (hx : Discreet use.executor)
    (d : Delivery) (w : σ) : (c.decision use d w).trace.reports = [] := by
  unfold decision
  cases c.dispatcher.resolve d.payload with
  | error reason => exact Trace.reports_cons_entryOf d _ (by decide) _ _
  | ok a =>
    have hevents : Trace.reports ((use.executor.execute a w).events.map fun e =>
        .logged (e.within (spanOf d))) = [] := by
      refine List.filterMap_eq_nil_iff.2 fun x hxe => ?_
      obtain ⟨e, he, rfl⟩ := List.mem_map.1 hxe
      exact if_neg (hx a w e he)
    have hfailure : Trace.reports (failureEntries d a (use.executor.execute a w).outcome) = [] := by
      unfold failureEntries
      split
      · rfl
      · exact Trace.reports_cons_logged (show "ERROR" ≠ Log.remediationMessage by decide) _
    simp only [action, List.cons_append]
    rw [Trace.reports_cons_entryOf d _ (by decide), Trace.reports_cons_executed,
      Trace.reports_append, hevents, hfailure, List.append_nil]

/-! ### Counted and reported -/

/-- The outcome that dealing with a delivery counts, if it counts one: on receipt, nothing
is decided when the acknowledgment is refused. -/
def counted? (c : Consumer) (use : Services σ) (d : Delivery) (w : σ) : Option Outcome :=
  match c.ackMode with
  | .onReceipt =>
    match use.messaging.acknowledge d.receipt w with
    | (.ok _, w) => some (c.decision use d w).outcome
    | (.error _, _) => none
  | .afterExecution => some (c.decision use d w).outcome

/-- What counting some outcomes does to the counts. -/
structure Records (os : List Outcome) (old new : Stats) : Prop where
  remediated : new.remediated = old.remediated + os.countP fun o => o.status = "succeeded"
  failed : new.failed = old.failed +
    os.countP fun o => o.status = "exited_non_zero" ∨ o.status = "execution_failed"
  rejected : new.rejected = old.rejected + os.countP fun o => o.status = "rejected"

/-- **How the outcomes that a piece of work counts are reported:** in order, and all of
them but those of deliveries whose acknowledgment was refused after execution. -/
structure Reported (c : Consumer) (os : List Outcome) (old new : Stats) (t : Trace) : Prop where
  records : Records os old new
  statuses : t.reports.map Log.Event.status? =
    (os.take t.reports.length).map fun o => some (.text o.status)
  unreported : os.length = t.reports.length +
    if c.ackMode = .afterExecution then t.refusals else 0

section
variable {c : Consumer} {os os' : List Outcome} {old mid new : Stats} {t t' : Trace}

/-- Counters record two lists of outcomes one after the other. -/
theorem Records.append (h : Records os old mid) (h' : Records os' mid new) :
    Records (os ++ os') old new where
  remediated := by rw [h'.remediated, h.remediated, List.countP_append, Nat.add_assoc]
  failed := by rw [h'.failed, h.failed, List.countP_append, Nat.add_assoc]
  rejected := by rw [h'.rejected, h.rejected, List.countP_append, Nat.add_assoc]

/-- No outcomes leave the counters as they are. -/
theorem Records.nil (s : Stats) : Records [] s s := ⟨rfl, rfl, rfl⟩

/-- **An outcome is counted by its status.** -/
theorem Records.record (s : Stats) (o : Outcome) : Records [o] s (s.record o) := by
  cases o with
  | remediated result =>
    cases h : result.succeeded <;> constructor <;> simp [Stats.record, Outcome.status, h]
  | failed failure => constructor <;> simp [Stats.record, Outcome.status]
  | rejected reason => constructor <;> simp [Stats.record, Outcome.status]

/-- It does not matter what else is counted. -/
theorem Records.congr (h : Records os old new) {old' new' : Stats}
    (hold : old'.remediated = old.remediated ∧ old'.failed = old.failed ∧
      old'.rejected = old.rejected)
    (hnew : new'.remediated = new.remediated ∧ new'.failed = new.failed ∧
      new'.rejected = new.rejected) : Records os old' new' where
  remediated := by rw [hold.1, hnew.1, h.remediated]
  failed := by rw [hold.2.1, hnew.2.1, h.failed]
  rejected := by rw [hold.2.2, hnew.2.2, h.rejected]

/-- Every outcome is counted once, whatever its status. -/
theorem Records.outcomes_eq (h : Records os old new) :
    new.outcomes = old.outcomes + os.length := by
  have hlength : os.length = (os.countP fun o => o.status = "succeeded") +
      (os.countP fun o => o.status = "exited_non_zero" ∨ o.status = "execution_failed") +
      os.countP fun o => o.status = "rejected" := by
    clear h
    induction os with
    | nil => rfl
    | cons o os ih =>
      rw [List.length_cons, ih]
      cases o with
      | remediated result =>
        cases hs : result.succeeded <;> simp [Outcome.status, hs] <;> omega
      | failed failure => simp [Outcome.status]; omega
      | rejected reason => simp [Outcome.status]; omega
  rw [Stats.outcomes, Stats.outcomes, h.remediated, h.failed, h.rejected, hlength]
  omega

/-- **Reports go on** as long as nothing has been refused before. -/
theorem Reported.append (h : Reported c os old mid t) (hz : t.refusals = 0)
    (h' : Reported c os' mid new t') : Reported c (os ++ os') old new (t ++ t') := by
  have hlength : os.length = t.reports.length := by
    have := h.unreported
    rw [hz] at this
    simpa using this
  refine ⟨h.records.append h'.records, ?_, ?_⟩
  · rw [Trace.reports_append, List.map_append, h.statuses, h'.statuses, List.length_append,
      ← hlength, List.take_length, List.take_length_add_append, List.map_append]
  · have := h'.unreported
    rw [List.length_append, Trace.reports_append, List.length_append, Trace.refusals_append, hz,
      hlength, this, Nat.zero_add, Nat.add_assoc]

/-- Where nothing is counted and nothing reported, nothing is missing. -/
theorem Reported.nil (s : Stats) (ht : t.reports = []) (hz : t.refusals = 0) :
    Reported c [] s s t := ⟨.nil s, by rw [ht]; rfl, by rw [ht, hz]; simp⟩

/-- **When everything is reported:** on receipt, or if nothing was refused. -/
theorem Reported.complete_iff (h : Reported c os old new t) :
    new.outcomes = old.outcomes + t.reports.length ↔
      ¬(c.ackMode = .afterExecution ∧ t.refusals ≠ 0) := by
  have hmissing := h.unreported
  rw [h.records.outcomes_eq]
  split at hmissing
  · next hm => simp only [hm, true_and]; omega
  · next hm => exact ⟨fun _ h => hm h.1, fun _ => by omega⟩

end

section
variable {c : Consumer} {use : Services σ}

/-- **One delivery:** its outcome is reported, unless its acknowledgment is refused after
execution. -/
theorem reported_process (hx : Discreet use.executor) (d : Delivery) (s : State σ) :
    Reported c (c.counted? use d s.world).toList s.stats
      ((c.process use d).done s).after.stats ((c.process use d).done s).trace := by
  cases hm : c.ackMode with
  | onReceipt =>
    rcases h : use.messaging.acknowledge d.receipt s.world with ⟨e | _, w⟩
    · have hd := done_process_of_refused_first hm h
      have hcounted : c.counted? use d s.world = none := by simp only [counted?, hm, h]
      rw [hd, hcounted]
      exact ⟨(Records.nil s.stats).congr ⟨rfl, rfl, rfl⟩ ⟨rfl, rfl, rfl⟩, by simp, by simp [hm]⟩
    · have hd := done_process_of_acknowledged_first hm h
      have hcounted : c.counted? use d s.world = some (c.decision use d w).outcome := by
        simp only [counted?, hm, h]
      rw [hd, hcounted]
      exact ⟨(Records.record s.stats.receive.acknowledge _).congr ⟨rfl, rfl, rfl⟩ ⟨rfl, rfl, rfl⟩,
        by simp [reports_decision hx, status?_outcomeReport],
        by simp [hm, reports_decision hx]⟩
  | afterExecution =>
    have hcounted : c.counted? use d s.world = some (c.decision use d s.world).outcome := by
      simp only [counted?, hm]
    rcases h : use.messaging.acknowledge d.receipt (c.decision use d s.world).after with ⟨e | _, w⟩
    · have hd := done_process_of_refused_last hm h
      have hr := (refusals_of_refused hd).1
      rw [hd, hcounted]
      exact ⟨(Records.record s.stats.receive _).congr ⟨rfl, rfl, rfl⟩ ⟨rfl, rfl, rfl⟩,
        by simp [reports_decision hx], by rw [hr]; simp [hm, reports_decision hx]⟩
    · have hd := done_process_of_acknowledged_last hm h
      have hr := refusals_of_handled hd
      rw [hd, hcounted]
      exact ⟨(Records.record s.stats.receive _).congr ⟨rfl, rfl, rfl⟩ ⟨rfl, rfl, rfl⟩,
        by simp [reports_decision hx, status?_outcomeReport],
        by rw [hr]; simp [hm, reports_decision hx]⟩

/-! ### Runs -/

/-- The outcomes that are counted while listening, in order. -/
def listened (c : Consumer) (use : Services σ) : Nat → State σ → List Outcome
  | 0, _ => []
  | looks + 1, s =>
    match use.messaging.nextDelivery s.world with
    | (.ok (some d), w) =>
      let done := (c.process use d).done ⟨w, .processing, s.stats⟩
      (c.counted? use d w).toList ++
        match done.answer with
        | .ok _ => listened c use looks done.after
        | .error _ => []
    | _ => []

/-- The outcomes that are counted in a run, in order. -/
def outcomes (c : Consumer) (use : Services σ) (looks : Nat) (s : State σ) : List Outcome :=
  match use.messaging.startConsuming c.queue s.world with
  | (.ok _, w) => c.listened use looks { s with world := w }
  | (.error _, _) => []

/-- **The loop reports the outcomes that it counts,** by induction on how it goes. -/
theorem reported_listen (hx : Discreet use.executor) (n : Nat) (s : State σ) :
    Reported c (c.listened use n s) s.stats ((c.listen use n).done s).after.stats
      ((c.listen use n).done s).trace := by
  refine listen_induction c use
    (motive := fun n s d => Reported c (c.listened use n s) s.stats d.after.stats d.trace)
    ?_ ?_ ?_ ?_ ?_ n s
  case refine_1 =>
    intro s
    refine .nil _ ?_ (Trace.refusals_of_calls_eq_nil (by simp))
    rw [Trace.reports_append, Trace.reports_entering, List.nil_append]
    exact Trace.reports_cons_event _ (by decide) _ _
  case refine_2 =>
    intro n s e w h
    rw [listened, h]
    exact .nil _ (by simp) (refusals_entering_pulled ..)
  case refine_3 =>
    intro n s w h
    rw [listened, h]
    exact .nil _ (by simp) (refusals_entering_pulled ..)
  case refine_4 =>
    intro n s d w e t trace h hd
    have hp := reported_process (c := c) hx d ⟨w, .processing, s.stats⟩
    rw [hd] at hp
    simp only [listened, h, hd, List.append_nil]
    exact (Reported.nil s.stats (Trace.reports_pulling ..) (refusals_pulling ..)).append
      (refusals_pulling ..) hp
  case refine_5 =>
    intro n s d w o t trace h hd ih
    have hp := reported_process (c := c) hx d ⟨w, .processing, s.stats⟩
    rw [hd] at hp
    have hz : Trace.refusals (pulling s.phase d ++ trace) = 0 := by
      rw [Trace.refusals_append, refusals_pulling, refusals_of_handled hd]
    simp only [listened, h, hd]
    exact ((Reported.nil s.stats (Trace.reports_pulling ..) (refusals_pulling ..)).append
      (refusals_pulling ..) hp).append hz ih

/-- Closing reports no outcome. -/
theorem reports_finish (c : Consumer) (use : Services σ) (consumed : Except Messaging.Error Unit)
    (s : State σ) : ((c.finish use consumed).done s).trace.reports = [] := by
  rw [done_finish]
  have hwarning : ∀ closed, Trace.reports (closeWarning consumed closed) = [] := by
    intro closed
    unfold closeWarning
    split
    · exact Trace.reports_cons_event _ (by decide) _ _
    · rfl
  simp only [Trace.reports_append, Trace.reports_entering, List.nil_append,
    Trace.reports_cons_closed]
  exact (Trace.reports_cons_event _ (by decide) _ _).trans (hwarning _)

/-- **A run:** its outcomes are reported as they are while listening. -/
theorem reported_run (hx : Discreet use.executor) (n : Nat) (s : State σ) :
    Reported c (c.outcomes use n s) s.stats ((c.run use n).done s).after.stats
      ((c.run use n).done s).trace := by
  have hconsume : Reported c (c.outcomes use n s) s.stats ((c.consume use n).done s).after.stats
      ((c.consume use n).done s).trace := by
    rcases h : use.messaging.startConsuming c.queue s.world with ⟨e | _, w⟩
    · rw [done_consume_of_unregistered h, outcomes, h]
      exact .nil _ rfl rfl
    · rw [done_consume_of_registered h, outcomes, h]
      have hstart : Trace.reports [.startedConsuming c.queue (.ok ()),
          .logged (c.waitingEntry use)] = [] := by
        rw [Trace.reports_cons_started]
        exact Trace.reports_cons_event _ (by decide) _ _
      exact (Reported.nil s.stats hstart rfl).append rfl
        (reported_listen hx n { s with world := w })
  rw [done_run, Done.after_precede, Done.trace_precede, stats_finish]
  refine ⟨hconsume.records, ?_, ?_⟩
  · rw [Trace.reports_append, reports_finish, List.append_nil, hconsume.statuses]
  · rw [Trace.reports_append, reports_finish, List.append_nil, Trace.refusals_append,
      refusals_finish, Nat.add_zero, hconsume.unreported]

end

/-- **Which outcomes are reported,** for a single delivery and for a whole run: as many
reports are written as outcomes are counted, with their statuses and in their order; but
after execution the outcome of a delivery whose acknowledgment is refused, which is the
last one, is counted and not reported. -/
theorem outcomes_reported (c : Consumer) {use : Services σ} (hx : Discreet use.executor) :
    (∀ d s, let done := (c.process use d).done s
      Reported c (c.counted? use d s.world).toList s.stats done.after.stats done.trace ∧
      (done.after.stats.outcomes = s.stats.outcomes + done.trace.reports.length ↔
        ¬(c.ackMode = .afterExecution ∧ ∃ e, done.answer = .error e))) ∧
    ∀ looks s d, c.Ends use looks s d → ∃ n, (looks = some n ∨ looks = none) ∧
      Reported c (c.outcomes use n s) s.stats d.after.stats d.trace ∧
      (d.after.stats.outcomes = s.stats.outcomes + d.trace.reports.length ↔
        ¬(c.ackMode = .afterExecution ∧ EndsRefused d)) := by
  refine ⟨fun d s => ?_, fun looks s d hd => ?_⟩
  · have hp := reported_process (c := c) hx d s
    have hrefused : ((c.process use d).done s).trace.refusals ≠ 0 ↔
        ∃ e, ((c.process use d).done s).answer = .error e := by
      rcases h : (c.process use d).done s with ⟨e | o, t, trace⟩
      · simp [(refusals_of_refused h).1]
      · simp [refusals_of_handled h]
    exact ⟨hp, by rw [hp.complete_iff, hrefused]⟩
  · obtain ⟨n, rfl, hn⟩ := ends_iff.1 hd
    have hr := reported_run (c := c) hx n s
    obtain ⟨hle, hends⟩ := refusals_run c use n s
    refine ⟨n, hn.imp_right And.left, hr, ?_⟩
    rw [hr.complete_iff, ← hends, show ((c.run use n).done s).trace.refusals ≠ 0 ↔
      ((c.run use n).done s).trace.refusals = 1 by omega]

/-- **A command that fails without a report:** its exit status is not zero, which is
counted, and then the acknowledgment of its delivery is refused. -/
theorem unreported_after_refusal :
    let c : Consumer := ⟨⟨⟨⟨"", .empty⟩, ["a"]⟩, .standard⟩, "alerts", .afterExecution⟩
    let use : Services Messaging.Connection := ⟨.inMemory, ⟨fun _ w => ⟨.ok (.ofExitStatus 3 0), w, []⟩⟩⟩
    let b : Messaging.Broker :=
      { Messaging.Broker.empty with queues := [("alerts", [⟨[97], false⟩])], refusesAcks := true }
    let d := (c.run use 1).done (.initial ⟨b, none⟩)
    d.after.stats.outcomes = 1 ∧ d.trace.reports.length = 0 := by
  decide

/-- Of two outcomes only the first one is reported, because the channel is closed while the
command for the second one runs. -/
theorem outcomes_reported_of_refusal :
    let c : Consumer := ⟨⟨⟨⟨"", .empty⟩, ["a"]⟩, .standard⟩, "alerts", .afterExecution⟩
    let use : Services Messaging.Connection := ⟨.inMemory, ⟨fun _ w =>
      ⟨.ok (.ofExitStatus 3 0), { w with broker := { w.broker with refusesAcks := true } }, []⟩⟩⟩
    let b : Messaging.Broker :=
      { Messaging.Broker.empty with queues := [("alerts", [⟨[98], false⟩, ⟨[97], false⟩])] }
    Discreet use.executor ∧ ∃ d, c.Ends use (some 2) (.initial ⟨b, none⟩) d ∧
      d.trace.reports.map Log.Event.status? = [some (.text "rejected")] ∧
      d.after.stats.outcomes ≠ d.trace.reports.length := by
  intro c use b
  have hx : Discreet use.executor := fun _ _ e he => by cases he
  obtain ⟨n, hn, hr, hcomplete⟩ :=
    (outcomes_reported c hx).2 (some 2) (.initial ⟨b, none⟩) _ rfl
  obtain rfl : 2 = n := by simpa using hn
  have hends := (refusals_run c use 2 (.initial ⟨b, none⟩)).2.1 (by decide)
  refine ⟨hx, _, rfl, hr.statuses.trans (by decide), fun h => ?_⟩
  exact hcomplete.1 (h.trans (Nat.zero_add _).symm) ⟨rfl, hends⟩

end Consumer
end Remedy
