/-
# The phases of a run

The phases that a consumer enters are in its trace.  A run enters a word of a small
language: the consumer listens and processes in turn and is terminated in the end, and
which word it is depends on whether the registration failed and on whether an
acknowledgment did (`Word`).  Deliveries are drawn while it listens, and acknowledged and
acted on while it processes (`InPhase`).  Whether an activity is in place depends on the
phases before it only, and so the parts of a trace are in place where the whole one is.

Work on a delivery enters no phase (`phase_process`): a delivery that is handed to the
consumer between two runs leaves the phase as it is.
-/

import Remedy.Proofs.Consumer.Counting

namespace Remedy
namespace Consumer

open Messaging (Delivery Receipt)
open Work

variable {σ : Type}

/-- The phase that an activity enters. -/
def Activity.phase? : Activity → Option Phase
  | .entered p => some p
  | _ => none

/-- The delivery that an activity draws. -/
def Activity.delivery? : Activity → Option Delivery
  | .pulled (.ok d) => d
  | _ => none

namespace Trace

/-- The deliveries that are drawn, in order. -/
def deliveries (t : Trace) : List Delivery := t.filterMap Activity.delivery?

@[simp] theorem deliveries_append (t u : Trace) :
    deliveries (t ++ u) = t.deliveries ++ u.deliveries := List.filterMap_append

@[simp] theorem deliveries_entering (old new : Phase) : deliveries (entering old new) = [] := by
  unfold entering
  split <;> rfl

/-- A delivery is there just if it has been pulled. -/
theorem mem_deliveries {t : Trace} {d : Delivery} :
    d ∈ t.deliveries ↔ .pulled (.ok (some d)) ∈ t := by
  rw [deliveries, List.mem_filterMap]
  refine ⟨fun ⟨a, ha, hd⟩ => ?_, fun h => ⟨_, h, rfl⟩⟩
  unfold Activity.delivery? at hd
  split at hd
  · rwa [hd] at ha
  · cases hd

/-- The phases that are entered, in order. -/
def phases (t : Trace) : List Phase := t.filterMap Activity.phase?

/-- The phase in which a trace ends that begins in another one. -/
def phaseFrom (p : Phase) (t : Trace) : Phase := t.phases.getLastD p

@[simp] theorem phases_append (t u : Trace) : phases (t ++ u) = t.phases ++ u.phases :=
  List.filterMap_append

@[simp] theorem phases_entering (old new : Phase) : phases (entering old new) = [new] := by
  unfold entering
  split <;> rfl

/-- The last of two lists is the last of the second one, or else of the first one. -/
theorem getLastD_append (ps qs : List Phase) (p : Phase) :
    (ps ++ qs).getLastD p = qs.getLastD (ps.getLastD p) := by
  induction ps generalizing p with
  | nil => rfl
  | cons q ps ih => rw [List.cons_append, List.getLastD_cons, List.getLastD_cons, ih]

/-- The phase after two parts of a trace is reached by way of the phase between them. -/
theorem phaseFrom_append (p : Phase) (t u : Trace) :
    (t ++ u).phaseFrom p = u.phaseFrom (t.phaseFrom p) := by
  rw [phaseFrom, phases_append, getLastD_append]
  rfl

/-- Entering a phase leads there from anywhere. -/
theorem phaseFrom_entering (old new p : Phase) : (entering old new).phaseFrom p = new := by
  rw [phaseFrom, phases_entering]
  rfl

/-- Where no phase is entered the phase stays. -/
theorem phaseFrom_of_phases_eq_nil {t : Trace} (h : t.phases = []) (p : Phase) :
    t.phaseFrom p = p := by
  rw [phaseFrom, h]
  rfl

end Trace

/-! ### The work on a delivery -/

/-- Whether an activity belongs to the work on a delivery: an acknowledgment, a command or
something told within a span. -/
def Activity.isInside : Activity → Bool
  | .acknowledged _ _ => true
  | .executed _ _ => true
  | .logged e => e.span.isSome
  | _ => false

/-- **All that is decided about a delivery is done inside a phase.** -/
theorem isInside_decision (c : Consumer) (use : Services σ) (d : Delivery) (w : σ) :
    ∀ a ∈ (c.decision use d w).trace, a.isInside = true := by
  unfold decision
  split
  · next action _ =>
    intro a ha
    simp only [Consumer.action, List.cons_append, List.mem_cons, List.mem_append,
      List.mem_map] at ha
    rcases ha with rfl | rfl | ⟨e, -, rfl⟩ | ha
    · rfl
    · rfl
    · rfl
    · unfold failureEntries at ha
      split at ha
      · cases ha
      · rw [List.mem_singleton.1 ha]
        rfl
  · exact List.forall_mem_singleton.2 rfl

/-- **Dealing with a delivery is nothing but work on it.** -/
theorem isInside_process (c : Consumer) (use : Services σ) (d : Delivery) (s : State σ) :
    ∀ a ∈ ((c.process use d).done s).trace, a.isInside = true := by
  refine process_cases c use d s (motive := fun x => ∀ a ∈ x.trace, a.isInside = true)
    ?_ ?_ ?_ ?_
  case refine_1 =>
    intro e w _ _
    simp only [List.forall_mem_cons]
    exact ⟨rfl, rfl, List.forall_mem_nil _⟩
  case refine_2 =>
    intro w _ _ x
    simp only [List.forall_mem_append, List.forall_mem_cons]
    exact ⟨⟨⟨rfl, rfl, rfl, List.forall_mem_nil _⟩, isInside_decision c use d w⟩, rfl,
      List.forall_mem_nil _⟩
  case refine_3 =>
    intro e w _ x _
    simp only [List.forall_mem_append, List.forall_mem_cons]
    exact ⟨⟨rfl, isInside_decision c use d s.world⟩, rfl, List.forall_mem_nil _⟩
  case refine_4 =>
    intro w _ x _
    simp only [List.forall_mem_append, List.forall_mem_cons]
    exact ⟨⟨rfl, isInside_decision c use d s.world⟩, rfl, rfl, rfl, List.forall_mem_nil _⟩

/-- What is done inside a phase enters none. -/
theorem phases_of_isInside {t : Trace} (h : ∀ a ∈ t, a.isInside = true) : t.phases = [] := by
  refine List.filterMap_eq_nil_iff.2 fun a ha => ?_
  have hin := h a ha
  cases a with
  | entered p => cases hin
  | _ => rfl

/-- What is done inside a phase pulls nothing. -/
theorem deliveries_of_isInside {t : Trace} (h : ∀ a ∈ t, a.isInside = true) :
    t.deliveries = [] := by
  refine List.filterMap_eq_nil_iff.2 fun a ha => ?_
  have hin := h a ha
  cases a with
  | pulled r => cases hin
  | _ => rfl

/-- **The phase does not change while a delivery is dealt with.** -/
theorem phase_process (c : Consumer) (use : Services σ) (d : Delivery) (s : State σ) :
    ((c.process use d).done s).after.phase = s.phase := by
  refine process_cases c use d s (motive := fun x => x.after.phase = s.phase) ?_ ?_ ?_ ?_
  case refine_1 => exact fun _ _ _ _ => rfl
  case refine_2 => exact fun _ _ _ => rfl
  case refine_3 => exact fun _ _ _ _ => rfl
  case refine_4 => exact fun _ _ _ => rfl

/-! ### Calls in their phases -/

/-- Whether an activity is in place in a phase: deliveries are drawn while listening, and
acknowledged and acted on while processing. -/
def Activity.Fits (p : Phase) : Activity → Prop
  | .pulled _ => p = .listening
  | .acknowledged _ _ => p = .processing
  | .executed _ _ => p = .processing
  | _ => True

/-- Whether everything in a trace that begins in a phase is in place. -/
def InPhase (p : Phase) (t : Trace) : Prop :=
  ∀ (before : Trace) (a : Activity) (after : Trace),
    t = before ++ a :: after → a.Fits (before.phaseFrom p)

namespace InPhase

variable {p : Phase} {t u : Trace}

/-- **Two parts fit together** if the second one fits the phase that the first one leads to. -/
theorem append (h : InPhase p t) (h' : InPhase (t.phaseFrom p) u) : InPhase p (t ++ u) := by
  intro before a after heq
  -- the activity stands in the second part, or it is the first one there, or in the first part
  rcases List.append_eq_append_iff.1 heq with ⟨left, rfl, hu⟩ | ⟨left, rfl, hleft⟩
  · rw [Trace.phaseFrom_append]
    exact h' left a after hu
  · rcases List.cons_eq_append_iff.1 hleft with ⟨rfl, hu⟩ | ⟨left, rfl, -⟩
    · rw [List.append_nil] at h'
      exact h' [] a after hu
    · exact h before a left rfl

/-- A beginning of what fits does so too. -/
theorem of_append (h : InPhase p (t ++ u)) : InPhase p t := by
  rintro before a after rfl
  exact h before a (after ++ u) (by rw [List.append_assoc, List.cons_append])

/-- A single activity that fits its phase. -/
theorem singleton {a : Activity} (h : a.Fits p) : InPhase p [a] := by
  intro before b after heq
  rcases List.cons_eq_append_iff.1 heq with ⟨rfl, hb⟩ | ⟨_, -, hnil⟩
  · obtain ⟨rfl, -⟩ := List.cons.inj hb
    exact h
  · simp at hnil

/-- Where nothing is called everything is in place. -/
theorem of_calls_eq_nil (h : t.calls = []) : InPhase p t := by
  rintro before a after rfl
  cases a with
  | entered q => trivial
  | logged e => trivial
  | _ =>
    rw [Trace.calls_append, Trace.calls_cons rfl] at h
    simp at h

/-- Work on a delivery is in place while processing. -/
theorem of_isInside (h : ∀ a ∈ t, a.isInside = true) : InPhase .processing t := by
  rintro before a after rfl
  have hbefore : Trace.phases before = [] :=
    phases_of_isInside fun a ha => h a (List.mem_append_left _ ha)
  have ha := h a (by simp)
  rw [Trace.phaseFrom_of_phases_eq_nil hbefore]
  cases a with
  | pulled r => cases ha
  | acknowledged receipt r => rfl
  | executed action r => rfl
  | _ => trivial

end InPhase

/-- Entering a phase is allowed in any. -/
theorem inPhase_entering (p old new : Phase) : InPhase p (entering old new) :=
  .of_calls_eq_nil (Trace.calls_entering old new)

/-- A pull that brings no delivery is done while listening. -/
theorem inPhase_entering_pulled (p old : Phase)
    (r : Except Messaging.Error (Option Delivery)) :
    InPhase p (entering old .listening ++ [.pulled r]) :=
  (inPhase_entering _ _ _).append (.singleton (Trace.phaseFrom_entering ..))

/-- A pull that brings a delivery is done while listening, whatever the phase was before. -/
theorem inPhase_pulling (p old : Phase) (d : Delivery) : InPhase p (pulling old d) := by
  have h := (inPhase_entering_pulled p old (.ok (some d))).append
    (inPhase_entering _ .listening .processing)
  rwa [List.append_assoc] at h

/-- After a delivery has been pulled it is being processed. -/
theorem phaseFrom_pulling (p old : Phase) (d : Delivery) :
    (pulling old d).phaseFrom p = .processing := by
  rw [pulling, ← List.singleton_append, Trace.phaseFrom_append, Trace.phaseFrom_append,
    Trace.phaseFrom_entering]

section
variable (c : Consumer) (use : Services σ)

/-- Dealing with a delivery enters no phase. -/
theorem phases_process (d : Delivery) (s : State σ) :
    ((c.process use d).done s).trace.phases = [] :=
  phases_of_isInside (isInside_process c use d s)

/-- Dealing with a delivery pulls no other one. -/
theorem deliveries_process (d : Delivery) (s : State σ) :
    ((c.process use d).done s).trace.deliveries = [] :=
  deliveries_of_isInside (isInside_process c use d s)

/-- Dealing with a delivery is done while processing. -/
theorem inPhase_process (d : Delivery) (s : State σ) :
    InPhase .processing ((c.process use d).done s).trace :=
  .of_isInside (isInside_process c use d s)

end

/-! ### Rounds -/

/-- The phases of a pull. -/
theorem phases_pulling (old : Phase) (d : Delivery) :
    (pulling old d).phases = [.listening, .processing] := by
  rw [pulling, ← List.singleton_append, Trace.phases_append, Trace.phases_append,
    Trace.phases_entering, Trace.phases_entering]
  rfl

/-- The delivery of a pull. -/
theorem deliveries_pulling (old : Phase) (d : Delivery) :
    (pulling old d).deliveries = [d] := by
  rw [pulling, ← List.singleton_append, Trace.deliveries_append, Trace.deliveries_append,
    Trace.deliveries_entering, Trace.deliveries_entering]
  rfl

/-- **What a round leaves in the trace,** where a delivery is drawn and dealt with. -/
structure Round (d : Delivery) (t : Trace) (after : Phase) : Prop where
  phases : t.phases = [.listening, .processing]
  deliveries : t.deliveries = [d]
  in_phase : ∀ p, InPhase p t
  phase : ∀ p, t.phaseFrom p = after

/-- **A round is a pull and the dealing with it,** which ends while processing. -/
theorem round_process {c : Consumer} {use : Services σ} {d : Delivery} {w : σ} {stats : Stats}
    {r : Except Messaging.Error Outcome} {t : State σ} {trace : Trace}
    (hd : (c.process use d).done ⟨w, .processing, stats⟩ = ⟨r, t, trace⟩) (old : Phase) :
    Round d (pulling old d ++ trace) t.phase := by
  have hphases := phases_process c use d ⟨w, .processing, stats⟩
  have hdeliveries := deliveries_process c use d ⟨w, .processing, stats⟩
  have hin := inPhase_process c use d ⟨w, .processing, stats⟩
  have hphase : _ = Phase.processing := phase_process c use d ⟨w, .processing, stats⟩
  rw [hd] at hphases hdeliveries hin hphase
  refine
    { phases := by rw [Trace.phases_append, phases_pulling, hphases]; rfl
      deliveries := by rw [Trace.deliveries_append, deliveries_pulling, hdeliveries]; rfl
      in_phase := fun p => (inPhase_pulling p old d).append (by rwa [phaseFrom_pulling])
      phase := fun p => ?phase }
  rw [Trace.phaseFrom_append, phaseFrom_pulling, Trace.phaseFrom_of_phases_eq_nil hphases]
  exact hphase.symm

section
variable (c : Consumer) (use : Services σ)

/-- **Whatever the loop does fits its phase,** by induction on how it goes. -/
theorem inPhase_listen (n : Nat) (s : State σ) :
    InPhase s.phase ((c.listen use n).done s).trace := by
  refine listen_induction c use (motive := fun _ s d => InPhase s.phase d.trace)
    ?_ ?_ ?_ ?_ ?_ n s
  case refine_1 =>
    intro s
    exact .of_calls_eq_nil (by simp)
  case refine_2 =>
    intro n s e w h
    exact inPhase_entering_pulled _ _ _
  case refine_3 =>
    intro n s w h
    exact inPhase_entering_pulled _ _ _
  case refine_4 =>
    intro n s d w e t trace h hd
    exact (round_process hd _).in_phase _
  case refine_5 =>
    intro n s d w o t trace h hd ih
    have hround := round_process hd s.phase
    refine (hround.in_phase _).append ?_
    rwa [hround.phase]

/-- Registering is done while connecting, and the loop fits after it. -/
theorem inPhase_consume (n : Nat) (s : State σ) :
    InPhase s.phase ((c.consume use n).done s).trace := by
  rcases h : use.messaging.startConsuming c.queue s.world with ⟨e | _, w⟩
  · rw [done_consume_of_unregistered h]
    exact .singleton trivial
  · rw [done_consume_of_registered h]
    have hstarted : InPhase s.phase [.startedConsuming c.queue (.ok ())] := .singleton trivial
    exact (hstarted.append (.of_calls_eq_nil rfl)).append
      (inPhase_listen c use n { s with world := w })

/-- Closing is done when all is over. -/
theorem inPhase_finish (consumed : Except Messaging.Error Unit) (s : State σ) (p : Phase) :
    InPhase p ((c.finish use consumed).done s).trace := by
  rw [done_finish]
  have hclosed : ∀ p r, InPhase p [.closed r] := fun p r => .singleton trivial
  refine (inPhase_entering _ _ _).append ((hclosed _ _).append (.of_calls_eq_nil ?_))
  rw [Trace.calls_cons_logged, calls_closeWarning]

/-- **In a run each call is made in its phase.** -/
theorem inPhase_run (n : Nat) (s : State σ) :
    InPhase s.phase ((c.run use n).done s).trace :=
  (inPhase_consume c use n s).append (inPhase_finish c use _ _ _)

/-! ### The word of a run -/

/-- Processing and listening in turn, so many times. -/
def rounds : Nat → List Phase
  | 0 => []
  | k + 1 => .processing :: .listening :: rounds k

/-- A round enters two phases. -/
theorem length_rounds (k : Nat) : (rounds k).length = 2 * k := by
  induction k with
  | zero => rfl
  | succ k ih =>
    rw [rounds, List.length_cons, List.length_cons, ih]
    omega

/-- **Listening goes round as long as nothing is refused.**  A refused acknowledgment ends
it while processing, and whatever else ends it does so while listening. -/
theorem phases_listen (n : Nat) (s : State σ) :
    let t := ((c.listen use n).done s).trace
    (t.refusals = 0 ∧ ∃ k, t.phases = .listening :: rounds k) ∨
      (t.refusals ≠ 0 ∧ ∃ k, t.phases = .listening :: rounds k ++ [.processing]) := by
  refine listen_induction c use (motive := fun _ _ d =>
    (d.trace.refusals = 0 ∧ ∃ k, d.trace.phases = .listening :: rounds k) ∨
      (d.trace.refusals ≠ 0 ∧ ∃ k, d.trace.phases = .listening :: rounds k ++ [.processing]))
    ?_ ?_ ?_ ?_ ?_ n s
  case refine_1 =>
    intro s
    refine .inl ⟨Trace.refusals_of_calls_eq_nil (by simp), 0, ?_⟩
    rw [Trace.phases_append, Trace.phases_entering]
    rfl
  case refine_2 =>
    intro n s e w h
    refine .inl ⟨refusals_entering_pulled .., 0, ?_⟩
    rw [Trace.phases_append, Trace.phases_entering]
    rfl
  case refine_3 =>
    intro n s w h
    refine .inl ⟨refusals_entering_pulled .., 0, ?_⟩
    rw [Trace.phases_append, Trace.phases_entering]
    rfl
  case refine_4 =>
    intro n s d w e t trace h hd
    refine .inr ⟨?_, 0, (round_process hd _).phases⟩
    rw [Trace.refusals_append, (refusals_of_refused hd).1]
    omega
  case refine_5 =>
    intro n s d w o t trace h hd ih
    have hnone : (pulling s.phase d ++ trace).refusals = 0 := by
      rw [Trace.refusals_append, refusals_pulling, refusals_of_handled hd]
    rw [Done.trace_precede, Trace.refusals_append, hnone, Nat.zero_add, Trace.phases_append,
      (round_process hd _).phases]
    refine ih.imp (fun ⟨hr, k, hk⟩ => ⟨hr, k + 1, ?_⟩) (fun ⟨hr, k, hk⟩ => ⟨hr, k + 1, ?_⟩)
    · rw [hk]
      rfl
    · rw [hk]
      rfl

/-- Closing enters the last phase. -/
theorem phases_finish (consumed : Except Messaging.Error Unit) (s : State σ) :
    ((c.finish use consumed).done s).trace.phases = [.terminated] := by
  have hwarning : ∀ closed, Trace.phases (closeWarning consumed closed) = [] := by
    intro closed
    unfold closeWarning
    split <;> rfl
  rw [done_finish]
  simp only [Trace.phases_append, Trace.phases_entering]
  exact congrArg (Phase.terminated :: ·) (hwarning _)

/-- Closing draws nothing. -/
theorem deliveries_finish (consumed : Except Messaging.Error Unit) (s : State σ) :
    ((c.finish use consumed).done s).trace.deliveries = [] := by
  have hwarning : ∀ closed, Trace.deliveries (closeWarning consumed closed) = [] := by
    intro closed
    unfold closeWarning
    split <;> rfl
  rw [done_finish]
  simp only [Trace.deliveries_append, Trace.deliveries_entering]
  exact hwarning _

/-- Closing pulls nothing, so the deliveries of a run are those of consuming. -/
theorem deliveries_run (n : Nat) (s : State σ) : ((c.run use n).done s).trace.deliveries =
    ((c.consume use n).done s).trace.deliveries := by
  rw [done_run, Done.trace_precede, Trace.deliveries_append, deliveries_finish, List.append_nil]

end

/-- **The word of a run.**  A consumer that is not registered is terminated at once; the
others go round, and are terminated while they listen, unless an acknowledgment was
refused. -/
structure Word (t : Trace) : Prop where
  form : t.phases = [.terminated] ∨
    (∃ k, t.phases = .listening :: rounds k ++ [.terminated]) ∨
    ∃ k, t.phases = .listening :: rounds k ++ [.processing, .terminated]
  unregistered : t.phases = [.terminated] ↔ ∃ queue e, .startedConsuming queue (.error e) ∈ t
  refused : (∃ k, t.phases = .listening :: rounds k ++ [.processing, .terminated]) ↔
    ∃ receipt e, .acknowledged receipt (.error e) ∈ t

namespace Trace

/-- There are refusals just if one of the acknowledgments is refused. -/
theorem refusals_ne_zero_iff {t : Trace} :
    t.refusals ≠ 0 ↔ ∃ receipt e, .acknowledged receipt (.error e) ∈ t := by
  rw [← Nat.pos_iff_ne_zero, refusals, List.countP_pos_iff]
  constructor
  · rintro ⟨a, ha, hr⟩
    unfold Activity.isRefusal at hr
    split at hr
    · exact ⟨_, _, ha⟩
    · cases hr
  · rintro ⟨receipt, e, h⟩
    exact ⟨_, h, rfl⟩

end Trace

/-- Of the two longer words one has an even length and the other one an odd one. -/
theorem rounds_ne (j k : Nat) : (.listening :: rounds j ++ [.terminated] : List Phase) ≠
    .listening :: rounds k ++ [.processing, .terminated] := by
  intro h
  have hlength := congrArg List.length h
  simp only [List.length_append, List.length_cons, length_rounds, List.length_nil] at hlength
  omega

/-- A failed registration is in the trace of a run if and only if the broker refused it. -/
theorem unregistered_iff {c : Consumer} {use : Services σ} {s : State σ} {w : σ}
    {r : Except Messaging.Error Unit} (h : use.messaging.startConsuming c.queue s.world = (r, w))
    (n : Nat) :
    (∃ queue e, .startedConsuming queue (.error e) ∈ ((c.run use n).done s).trace) ↔
      ∃ e, r = .error e := by
  have hmem : .startedConsuming c.queue r ∈ ((c.run use n).done s).trace := by
    rw [done_run, Done.trace_precede]
    refine List.mem_append_left _ ?_
    rcases r with e | _
    · rw [done_consume_of_unregistered h]
      exact List.mem_cons_self ..
    · rw [done_consume_of_registered h]
      exact List.mem_cons_self ..
  obtain ⟨r', rest, hcalls, honce⟩ := (disciplined_run c use n s).registers_first
  have hfirst : ∀ queue r'', .startedConsuming queue r'' ∈ ((c.run use n).done s).trace →
      r'' = r' := by
    intro queue r'' hmem
    have hcall : .startedConsuming queue r'' ∈ ((c.run use n).done s).trace.calls :=
      List.mem_filter.2 ⟨hmem, rfl⟩
    rw [hcalls] at hcall
    rcases List.mem_cons.1 hcall with heq | hrest
    · exact (Activity.startedConsuming.inj heq).2
    · exact absurd hrest (honce _ _)
  refine ⟨fun ⟨queue, e, he⟩ => ⟨e, ?_⟩, fun ⟨e, he⟩ => ⟨c.queue, e, he ▸ hmem⟩⟩
  rw [hfirst _ _ hmem, hfirst _ _ he]

/-- **The trace of a run is a word,** however the run goes. -/
theorem word_run (c : Consumer) (use : Services σ) (n : Nat) (s : State σ) :
    Word ((c.run use n).done s).trace := by
  have hphases : ((c.run use n).done s).trace.phases =
      ((c.consume use n).done s).trace.phases ++ [.terminated] := by
    rw [done_run, Done.trace_precede, Trace.phases_append, phases_finish]
  have hrefusals : ((c.run use n).done s).trace.refusals =
      ((c.consume use n).done s).trace.refusals := by
    rw [done_run, Done.trace_precede, Trace.refusals_append, refusals_finish, Nat.add_zero]
  rcases h : use.messaging.startConsuming c.queue s.world with ⟨e | _, w⟩
  · rw [done_consume_of_unregistered h] at hphases hrefusals
    refine ⟨.inl hphases, ?_, ?_⟩
    · rw [unregistered_iff h]
      exact ⟨fun _ => ⟨e, rfl⟩, fun _ => hphases⟩
    · rw [← Trace.refusals_ne_zero_iff, hphases, hrefusals]
      exact ⟨fun ⟨k, hk⟩ => (by cases hk), fun hne => absurd rfl hne⟩
  · rw [done_consume_of_registered h, Done.trace_precede] at hphases hrefusals
    have hregistered : ¬ ∃ queue e,
        .startedConsuming queue (.error e) ∈ ((c.run use n).done s).trace := by
      rw [unregistered_iff h]
      rintro ⟨e, he⟩
      cases he
    rcases phases_listen c use n { s with world := w } with ⟨hr, k, hk⟩ | ⟨hr, k, hk⟩
    · have hword : ((c.run use n).done s).trace.phases =
          .listening :: rounds k ++ [.terminated] := hphases.trans (congrArg (· ++ _) hk)
      refine ⟨.inr (.inl ⟨k, hword⟩), ?_, ?_⟩
      · rw [iff_false_right hregistered, hword]
        simp
      · rw [← Trace.refusals_ne_zero_iff, hword, hrefusals]
        exact ⟨fun ⟨j, hj⟩ => absurd hj (rounds_ne k j), fun hne => absurd hr hne⟩
    · have hword : ((c.run use n).done s).trace.phases =
          .listening :: rounds k ++ [.processing, .terminated] := by
        rw [hphases]
        exact (congrArg (· ++ _) hk).trans (List.append_assoc ..)
      refine ⟨.inr (.inr ⟨k, hword⟩), ?_, ?_⟩
      · rw [iff_false_right hregistered, hword]
        simp
      · rw [← Trace.refusals_ne_zero_iff, hrefusals]
        exact ⟨fun _ => hr, fun _ => ⟨k, hword⟩⟩

end Consumer
end Remedy
