/-
# What the counts add up to

A delivery is counted when work on it begins, when it is acknowledged and when its
outcome is known, with early ends between these.  On receipt nothing is decided before
the acknowledgment is through, and so there are as many outcomes as acknowledgments;
after execution there is an outcome before the acknowledgment is tried, and so there are
as many outcomes as deliveries.  The difference of the two is the number of
acknowledgments that were refused (`Trace.refusals`).

`Balances` says this of a piece of work, as a relation between the counts before and
after it; it composes (`Balances.append`).  `Lives` is a consumer that has been run and
handed deliveries any number of times.
-/

import Remedy.Proofs.Consumer.Discipline

namespace Remedy
namespace Consumer

open Messaging (Delivery Receipt)
open Work

variable {σ : Type}

/-- Whether an activity is an acknowledgment that was refused. -/
def Activity.isRefusal : Activity → Bool
  | .acknowledged _ (.error _) => true
  | _ => false

/-- How many acknowledgments were refused. -/
def Trace.refusals (t : Trace) : Nat := t.countP Activity.isRefusal

namespace Trace

@[simp] theorem refusals_nil : refusals [] = 0 := rfl

@[simp] theorem refusals_append (t u : Trace) : refusals (t ++ u) = t.refusals + u.refusals :=
  List.countP_append

/-- A refused acknowledgment is one refusal. -/
theorem refusals_cons_refusal (receipt : Receipt) (e : Messaging.Error) (t : Trace) :
    refusals (.acknowledged receipt (.error e) :: t) = t.refusals + 1 :=
  List.countP_cons_of_pos rfl

/-- Nothing else is one. -/
theorem refusals_cons {a : Activity} (h : a.isRefusal = false) (t : Trace) :
    refusals (a :: t) = t.refusals := List.countP_cons_of_neg (by rw [h]; decide)

/-- Refused acknowledgments are among the calls. -/
theorem refusals_calls (t : Trace) : t.calls.refusals = t.refusals := by
  induction t with
  | nil => rfl
  | cons a t ih =>
    cases a with
    | entered p => rw [calls_cons_entered, refusals_cons rfl, ih]
    | logged e => rw [calls_cons_logged, refusals_cons rfl, ih]
    | _ =>
      rw [calls_cons rfl]
      simp only [refusals, List.countP_cons] at ih ⊢
      rw [ih]

/-- Where nothing is called nothing is refused. -/
theorem refusals_of_calls_eq_nil {t : Trace} (h : t.calls = []) : t.refusals = 0 := by
  rw [← refusals_calls, h, refusals_nil]

end Trace

section
variable {c : Consumer} {d : Delivery} {calls : Trace}

/-- Acting on a delivery, no acknowledgment is refused. -/
theorem Acts.refusals (h : Acts c d calls) : calls.refusals = 0 := by
  refine List.countP_eq_zero.2 fun a ha => ?_
  obtain ⟨action, r, -, rfl, -⟩ := h.eq_executed ha
  exact Bool.false_ne_true

/-- Where a delivery was acknowledged nothing was refused. -/
theorem Handles.refusals_of_ok (h : Handles c d (.ok ()) calls) : calls.refusals = 0 := by
  rcases h.cases_mode with ⟨-, acts, rfl, ⟨hacts, -⟩ | ⟨-, e, he⟩⟩ | ⟨-, acts, hacts, rfl⟩
  · rw [Trace.refusals_cons rfl, hacts.refusals]
  · cases he
  · rw [Trace.refusals_append, hacts.refusals, Trace.refusals_cons rfl, Trace.refusals_nil]

/-- A refused acknowledgment is the last call for its delivery, and the only refusal. -/
theorem Handles.eq_append_of_error {e : Messaging.Error} (h : Handles c d (.error e) calls) :
    ∃ acts, calls = acts ++ [.acknowledged d.receipt (.error e)] ∧ Trace.refusals acts = 0 := by
  rcases h.cases_mode with ⟨-, acts, rfl, ⟨-, he⟩ | ⟨rfl, -⟩⟩ | ⟨-, acts, hacts, rfl⟩
  · cases he
  · exact ⟨[], rfl, rfl⟩
  · exact ⟨acts, rfl, hacts.refusals⟩

end

/-! ### Counts before and after -/

/-- **What a piece of work adds to the counts,** by the mode and by what was refused. -/
structure Balances (c : Consumer) (old new : Stats) (t : Trace) : Prop where
  on_receipt : c.ackMode = .onReceipt →
    new.acknowledged + old.outcomes = old.acknowledged + new.outcomes
  after_execution : c.ackMode = .afterExecution →
    new.received + old.outcomes = old.received + new.outcomes
  refused : new.received + old.acknowledged = old.received + new.acknowledged + t.refusals

section
variable {c : Consumer} {s s' s'' : Stats} {t t' : Trace}

/-- Where nothing is counted and nothing refused, the counts are in balance. -/
theorem Balances.refl (s : Stats) (h : t.refusals = 0) : Balances c s s t where
  on_receipt _ := rfl
  after_execution _ := rfl
  refused := by rw [h]; rfl

/-- **Two parts of a run that balance balance together.** -/
theorem Balances.append (h : Balances c s s' t) (h' : Balances c s' s'' t') :
    Balances c s s'' (t ++ t') where
  on_receipt hm := by
    have := h.on_receipt hm
    have := h'.on_receipt hm
    omega
  after_execution hm := by
    have := h.after_execution hm
    have := h'.after_execution hm
    omega
  refused := by
    have := h.refused
    have := h'.refused
    rw [Trace.refusals_append]
    omega

/-- Of a trace only the refusals matter. -/
theorem Balances.of_refusals_eq (h : Balances c s s' t) (ht : t'.refusals = t.refusals) :
    Balances c s s' t' := ⟨h.on_receipt, h.after_execution, ht ▸ h.refused⟩

end

namespace Stats

variable (s : Stats) (o : Outcome)

@[simp] theorem received_record : (s.record o).received = s.received := by
  cases o <;> simp only [record]
  split <;> rfl

@[simp] theorem acknowledged_record : (s.record o).acknowledged = s.acknowledged := by
  cases o <;> simp only [record]
  split <;> rfl

@[simp] theorem received_receive : s.receive.received = s.received + 1 := rfl

@[simp] theorem acknowledged_receive : s.receive.acknowledged = s.acknowledged := rfl

@[simp] theorem outcomes_receive : s.receive.outcomes = s.outcomes := rfl

@[simp] theorem received_acknowledge : s.acknowledge.received = s.received := rfl

@[simp] theorem acknowledged_acknowledge : s.acknowledge.acknowledged = s.acknowledged + 1 := rfl

@[simp] theorem outcomes_acknowledge : s.acknowledge.outcomes = s.outcomes := rfl

end Stats

section
variable {c : Consumer} {use : Services σ} {d : Delivery} {s t : State σ} {o : Outcome}
  {e : Messaging.Error} {trace : Trace}

/-- Work on a delivery that succeeds has been acknowledged. -/
theorem refusals_of_handled (h : (c.process use d).done s = ⟨.ok o, t, trace⟩) :
    trace.refusals = 0 := by
  have hw := handles_process c use d s
  rw [h] at hw
  rw [← Trace.refusals_calls]
  exact hw.refusals_of_ok

/-- **Work on a delivery fails by the refusal of its acknowledgment,** and nothing is
called after that. -/
theorem refusals_of_refused (h : (c.process use d).done s = ⟨.error e, t, trace⟩) :
    trace.refusals = 1 ∧
      ∃ acts, trace.calls = acts ++ [.acknowledged d.receipt (.error e)] := by
  have hw := handles_process c use d s
  rw [h] at hw
  obtain ⟨acts, hcalls, hacts⟩ := hw.eq_append_of_error
  refine ⟨?_, acts, hcalls⟩
  rw [← Trace.refusals_calls, hcalls, Trace.refusals_append, hacts, Trace.refusals_cons_refusal,
    Trace.refusals_nil]

end

section
variable (c : Consumer) (use : Services σ)

/-- **One delivery keeps the counts in balance,** however far work on it gets. -/
theorem balances_process (d : Delivery) (s : State σ) :
    Balances c s.stats ((c.process use d).done s).after.stats
      ((c.process use d).done s).trace := by
  cases hm : c.ackMode with
  | onReceipt =>
    have hne : c.ackMode ≠ .afterExecution := by rw [hm]; decide
    rcases h : use.messaging.acknowledge d.receipt s.world with ⟨e | _, w⟩
    · have hd := done_process_of_refused_first hm h
      have hr := (refusals_of_refused hd).1
      rw [hd]
      exact ⟨fun _ => rfl, fun h => absurd h hne, by rw [hr]; simp; omega⟩
    · have hd := done_process_of_acknowledged_first hm h
      have hr := refusals_of_handled hd
      rw [hd]
      exact ⟨fun _ => by simp [Stats.outcomes_record]; omega, fun h => absurd h hne,
        by rw [hr]; simp; omega⟩
  | afterExecution =>
    have hne : c.ackMode ≠ .onReceipt := by rw [hm]; decide
    rcases h : use.messaging.acknowledge d.receipt (c.decision use d s.world).after with ⟨e | _, w⟩
    · have hd := done_process_of_refused_last hm h
      have hr := (refusals_of_refused hd).1
      rw [hd]
      exact ⟨fun h => absurd h hne, fun _ => by simp [Stats.outcomes_record]; omega,
        by rw [hr]; simp; omega⟩
    · have hd := done_process_of_acknowledged_last hm h
      have hr := refusals_of_handled hd
      rw [hd]
      exact ⟨fun h => absurd h hne, fun _ => by simp [Stats.outcomes_record]; omega,
        by rw [hr]; simp; omega⟩

/-! ### Runs -/

/-- Pulling a delivery refuses nothing. -/
theorem refusals_pulling (old : Phase) (d : Delivery) : (pulling old d).refusals = 0 := by
  rw [← Trace.refusals_calls, ← List.append_nil (pulling old d), calls_pulling,
    Trace.refusals_cons rfl, Trace.calls_nil, Trace.refusals_nil]

/-- What stands in the trace from where listening begins to where a pull fails. -/
theorem refusals_entering_pulled (old new : Phase)
    (r : Except Messaging.Error (Option Delivery)) :
    Trace.refusals (entering old new ++ [.pulled r]) = 0 := by
  rw [← Trace.refusals_calls, Trace.calls_append, Trace.calls_entering, List.nil_append]
  rfl

/-- **The loop balances,** by induction on how it goes. -/
theorem balances_listen (n : Nat) (s : State σ) :
    Balances c s.stats ((c.listen use n).done s).after.stats
      ((c.listen use n).done s).trace := by
  refine listen_induction c use
    (motive := fun _ s d => Balances c s.stats d.after.stats d.trace) ?_ ?_ ?_ ?_ ?_ n s
  case refine_1 =>
    intro s
    exact .refl _ (Trace.refusals_of_calls_eq_nil (by simp))
  case refine_2 =>
    intro n s e w h
    exact .refl _ (refusals_entering_pulled ..)
  case refine_3 =>
    intro n s w h
    exact .refl _ (refusals_entering_pulled ..)
  case refine_4 =>
    intro n s d w e t trace h hd
    have hp := balances_process c use d ⟨w, .processing, s.stats⟩
    rw [hd] at hp
    exact (Balances.refl _ (refusals_pulling ..)).append hp
  case refine_5 =>
    intro n s d w o t trace h hd ih
    have hp := balances_process c use d ⟨w, .processing, s.stats⟩
    rw [hd] at hp
    exact ((Balances.refl _ (refusals_pulling ..)).append hp).append ih

/-- Whether listening was ended by a refused acknowledgment, or nothing was refused. -/
theorem refusals_listen (n : Nat) (s : State σ) :
    let d := (c.listen use n).done s
    d.trace.refusals = 0 ∨ d.trace.refusals = 1 ∧
      ∃ before receipt e, d.trace.calls = before ++ [.acknowledged receipt (.error e)] ∧
        d.answer = .error e := by
  refine listen_induction c use
    (motive := fun _ _ d => d.trace.refusals = 0 ∨ d.trace.refusals = 1 ∧
      ∃ before receipt e, d.trace.calls = before ++ [.acknowledged receipt (.error e)] ∧
        d.answer = .error e) ?_ ?_ ?_ ?_ ?_ n s
  case refine_1 =>
    intro s
    exact .inl (Trace.refusals_of_calls_eq_nil (by simp))
  case refine_2 =>
    intro n s e w h
    exact .inl (refusals_entering_pulled ..)
  case refine_3 =>
    intro n s w h
    exact .inl (refusals_entering_pulled ..)
  case refine_4 =>
    intro n s d w e t trace h hd
    obtain ⟨hr, acts, hcalls⟩ := refusals_of_refused hd
    refine .inr ⟨?_, .pulled (.ok (some d)) :: acts, d.receipt, e, ?_, rfl⟩
    · rw [Trace.refusals_append, refusals_pulling, hr]
    · rw [calls_pulling, hcalls, List.cons_append]
  case refine_5 =>
    intro n s d w o t trace h hd ih
    have hzero : (pulling s.phase d ++ trace).refusals = 0 := by
      rw [Trace.refusals_append, refusals_pulling, refusals_of_handled hd]
    rw [Done.trace_precede, Done.answer_precede, Trace.refusals_append, hzero, Nat.zero_add,
      Trace.calls_append]
    refine ih.imp_right fun ⟨hone, before, receipt, e, hcalls, he⟩ =>
      ⟨hone, (pulling s.phase d ++ trace).calls ++ before, receipt, e, ?_, he⟩
    rw [hcalls, List.append_assoc]

/-- Registering changes no count, so consuming balances as the loop does. -/
theorem balances_consume (n : Nat) (s : State σ) :
    Balances c s.stats ((c.consume use n).done s).after.stats
      ((c.consume use n).done s).trace := by
  rcases h : use.messaging.startConsuming c.queue s.world with ⟨e | _, w⟩
  · rw [done_consume_of_unregistered h]
    exact .refl _ rfl
  · rw [done_consume_of_registered h]
    exact (balances_listen c use n { s with world := w }).of_refusals_eq rfl

/-- Closing refuses nothing. -/
theorem refusals_finish (consumed : Except Messaging.Error Unit) (s : State σ) :
    ((c.finish use consumed).done s).trace.refusals = 0 := by
  obtain ⟨r, hr⟩ := calls_finish c use consumed s
  rw [← Trace.refusals_calls, hr]
  rfl

/-- Closing counts nothing. -/
theorem stats_finish (consumed : Except Messaging.Error Unit) (s : State σ) :
    ((c.finish use consumed).done s).after.stats = s.stats := by rw [done_finish]

/-- **A run keeps the counts in balance,** however it ends. -/
theorem balances_run (n : Nat) (s : State σ) :
    Balances c s.stats ((c.run use n).done s).after.stats ((c.run use n).done s).trace := by
  rw [done_run, Done.after_precede, Done.trace_precede, stats_finish]
  refine (balances_consume c use n s).of_refusals_eq ?_
  rw [Trace.refusals_append, refusals_finish, Nat.add_zero]

end

/-- Whether a run was ended by a refused acknowledgment: nothing but closing follows it,
and its failure is the answer to the run. -/
def EndsRefused (d : Done σ Unit) : Prop :=
  ∃ before receipt e r,
    d.trace.calls = before ++ [.acknowledged receipt (.error e), .closed r] ∧ d.answer = .error e

/-- **In a run at most one acknowledgment is refused,** and then that ends the run. -/
theorem refusals_run (c : Consumer) (use : Services σ) (n : Nat) (s : State σ) :
    let d := (c.run use n).done s
    d.trace.refusals ≤ 1 ∧ (d.trace.refusals = 1 ↔ EndsRefused d) := by
  intro d
  have hends : EndsRefused d → 1 ≤ d.trace.refusals := by
    rintro ⟨before, receipt, e, r, hcalls, -⟩
    rw [← Trace.refusals_calls, hcalls, Trace.refusals_append, Trace.refusals_cons_refusal]
    omega
  have hrun : d.trace.refusals = ((c.consume use n).done s).trace.refusals := by
    show ((c.run use n).done s).trace.refusals = _
    rw [done_run, Done.trace_precede, Trace.refusals_append, refusals_finish, Nat.add_zero]
  have hconsume : d.trace.refusals = 0 ∨ d.trace.refusals = 1 ∧ EndsRefused d := by
    rw [hrun]
    rcases h : use.messaging.startConsuming c.queue s.world with ⟨e | _, w⟩
    · rw [done_consume_of_unregistered h]
      exact .inl rfl
    · have hc := done_consume_of_registered h n
      rw [hc]
      refine (refusals_listen c use n { s with world := w }).imp_right
        fun ⟨hone, before, receipt, e, hcalls, he⟩ => ⟨hone, ?_⟩
      obtain ⟨r, hr⟩ := calls_finish c use ((c.consume use n).done s).answer
        ((c.consume use n).done s).after
      refine ⟨.startedConsuming c.queue (.ok ()) :: before, receipt, e, r, ?_, ?_⟩
      · show ((c.run use n).done s).trace.calls = _
        rw [done_run, Done.trace_precede, Trace.calls_append, hr, hc, Done.trace_precede,
          Trace.calls_append, hcalls, Trace.calls_cons rfl, Trace.calls_cons_logged,
          Trace.calls_nil]
        simp
      · show ((c.run use n).done s).answer = _
        rw [done_run, hc, Done.answer_precede, Done.answer_precede, he, done_finish]
        rfl
  rcases hconsume with hzero | ⟨hone, hd⟩
  · refine ⟨by omega, fun hone => absurd hone (by omega), fun hd => ?_⟩
    have := hends hd
    omega
  · exact ⟨by omega, fun _ => hd, fun _ => hone⟩

/-! ### The life of a consumer -/

/-- Whether a consumer may be in a state that has done what a trace says since it was
made.  It is run and handed deliveries any number of times, and between two of these
others may use its services. -/
inductive Lives (c : Consumer) (use : Services σ) : State σ → Trace → Prop where
  | made (w : σ) : Lives c use (.initial w) []
  | shared {s : State σ} {t : Trace} (w : σ) : Lives c use s t → Lives c use { s with world := w } t
  | ran {s : State σ} {t : Trace} {looks : Option Nat} {d : Done σ Unit} :
    Lives c use s t → c.Ends use looks s d → Lives c use d.after (t ++ d.trace)
  | handled {s : State σ} {t : Trace} (d : Delivery) : Lives c use s t →
    Lives c use ((c.process use d).done s).after (t ++ ((c.process use d).done s).trace)

/-- **The counts are in balance all the time.** -/
theorem Lives.balances {c : Consumer} {use : Services σ} {s : State σ} {t : Trace}
    (h : c.Lives use s t) : Balances c {} s.stats t := by
  induction h with
  | made w => exact .refl _ rfl
  | shared w _ ih => exact ih
  | ran _ hd ih =>
    obtain ⟨n, rfl⟩ := hd.exists_run
    exact ih.append (balances_run c use n _)
  | handled d _ ih => exact ih.append (balances_process c use d _)

/-- **The counts are conserved** through any number of runs and single deliveries,
whatever the services do: on receipt there are as many acknowledgments as outcomes, after
execution as many deliveries as outcomes, and in both modes a delivery is received and not
acknowledged exactly where its acknowledgment was refused.  One run adds at most one of
these, and one exactly if a refused acknowledgment ended it. -/
theorem counts_conserved {c : Consumer} {use : Services σ} {s : State σ} {t : Trace}
    (h : c.Lives use s t) :
    (c.ackMode = .onReceipt →
      s.stats.acknowledged = s.stats.remediated + s.stats.failed + s.stats.rejected) ∧
    (c.ackMode = .afterExecution →
      s.stats.received = s.stats.remediated + s.stats.failed + s.stats.rejected) ∧
    s.stats.received = s.stats.acknowledged + t.refusals ∧
    ∀ looks d, c.Ends use looks s d →
      d.after.stats.received - d.after.stats.acknowledged ≤
          s.stats.received - s.stats.acknowledged + 1 ∧
        (d.after.stats.received - d.after.stats.acknowledged =
          s.stats.received - s.stats.acknowledged + 1 ↔ EndsRefused d) := by
  have hs := h.balances
  have hrefused : s.stats.received = s.stats.acknowledged + t.refusals := by
    have := hs.refused
    simpa using this
  refine ⟨fun hm => ?_, fun hm => ?_, hrefused, fun looks d hd => ?_⟩
  · have := hs.on_receipt hm
    simpa [Stats.outcomes] using this
  · have := hs.after_execution hm
    simpa [Stats.outcomes] using this
  · obtain ⟨n, rfl⟩ := hd.exists_run
    have hrun := (balances_run c use n s).refused
    obtain ⟨hle, hends⟩ := refusals_run c use n s
    rw [← hends]
    omega

/-- With a broker that refuses acknowledgments, a run is ended by its first delivery. -/
theorem counts_conserved_of_refusal :
    let c : Consumer := ⟨⟨⟨⟨"", .empty⟩, ["a"]⟩, .standard⟩, "alerts", .onReceipt⟩
    let use : Services Messaging.Connection := ⟨.inMemory, ⟨fun _ w => ⟨.ok (.ofExitStatus 0 0), w, []⟩⟩⟩
    let b : Messaging.Broker :=
      { Messaging.Broker.empty with queues := [("alerts", [⟨[97], false⟩])], refusesAcks := true }
    ∃ d, c.Lives use (.initial ⟨b, none⟩) [] ∧ c.Ends use (some 2) (.initial ⟨b, none⟩) d ∧
      EndsRefused d ∧ d.after.stats.received = 1 ∧ d.after.stats.acknowledged = 0 := by
  intro c use b
  have h : c.Lives use (.initial ⟨b, none⟩) [] := .made _
  have hends := ((counts_conserved h).2.2.2 (some 2) _ rfl).2.1 (by decide)
  exact ⟨_, h, rfl, hends, by decide, by decide⟩

end Consumer
end Remedy
