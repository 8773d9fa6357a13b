/-
# The discipline of acknowledgment

Between two deliveries a consumer does nothing but deal with the first: it
acknowledges it, once and with its own receipt, and runs the command that it is
resolved to, if it is resolved to one (`Handles`).  In one mode the
acknowledgment comes first and nothing follows one that is refused; in the other
one it comes last.  `Consumes` is the language of the calls that follow the
registration, `Disciplined` what they obey, and `Careful` what still holds if the
consumer is stopped between any two of them.
-/

import Remedy.Proofs.Consumer.Listening

namespace Remedy
namespace Consumer

open Messaging (Delivery Receipt)
open Work

variable {σ : Type}

/-- Whether an activity is a call that deals with a delivery. -/
def Activity.isWork : Activity → Bool
  | .acknowledged _ _ => true
  | .executed _ _ => true
  | _ => false

/-- The calls that act on a delivery: one, with the action that its payload is
resolved to, or none if it is resolved to none. -/
def Acts (c : Consumer) (d : Delivery) (calls : Trace) : Prop :=
  match c.dispatcher.resolve d.payload with
  | .ok a => ∃ r, calls = [.executed a r]
  | .error _ => calls = []

/-- The calls that deal with a delivery whose acknowledgment is answered by `r`. -/
def Handles (c : Consumer) (d : Delivery) (r : Except Messaging.Error Unit) (calls : Trace) :
    Prop :=
  match c.ackMode, r with
  | .onReceipt, .ok _ => ∃ acts, Acts c d acts ∧ calls = .acknowledged d.receipt r :: acts
  | .onReceipt, .error _ => calls = [.acknowledged d.receipt r]
  | .afterExecution, _ => ∃ acts, Acts c d acts ∧ calls = acts ++ [.acknowledged d.receipt r]

/-- The calls of a registered consumer until it is closed. -/
inductive Consumes (c : Consumer) : Trace → Prop where
  | closes (r : Except Messaging.Error Unit) : Consumes c [.closed r]
  | breaks (p : Except Messaging.Error (Option Delivery)) (r : Except Messaging.Error Unit) :
    (∀ d, p ≠ .ok (some d)) → Consumes c [.pulled p, .closed r]
  | refused (d : Delivery) (e : Messaging.Error) (work : Trace) (r : Except Messaging.Error Unit) :
    Handles c d (.error e) work → Consumes c (.pulled (.ok (some d)) :: (work ++ [.closed r]))
  | handled (d : Delivery) (work rest : Trace) :
    Handles c d (.ok ()) work → Consumes c rest →
      Consumes c (.pulled (.ok (some d)) :: (work ++ rest))

/-- **What the calls of a run obey.** -/
structure Disciplined (c : Consumer) (calls : Trace) : Prop where
  /-- Registration comes first, and once. -/
  registers_first : ∃ r rest, calls = .startedConsuming c.queue r :: rest ∧
    ∀ queue r', .startedConsuming queue r' ∉ rest
  /-- Before anything else is called, a delivery is dealt with. -/
  handles_each : ∀ before d after, calls = before ++ .pulled (.ok (some d)) :: after →
    ∃ r, Handles c d r (after.takeWhile Activity.isWork)
  /-- What is called to deal with a delivery deals with the one pulled last. -/
  handles_last : ∀ before a after, calls = before ++ a :: after → a.isWork = true →
    ∃ b d work r, before = b ++ .pulled (.ok (some d)) :: work ∧
      Handles c d r (work ++ a :: after.takeWhile Activity.isWork)
  /-- Nothing but closing follows a refused acknowledgment. -/
  ends_refused : ∀ before receipt e after,
    calls = before ++ .acknowledged receipt (.error e) :: after → ∃ r, after = [.closed r]

/-- **What holds wherever a run is cut off.** -/
structure Careful (c : Consumer) (calls : Trace) : Prop where
  /-- Of the deliveries only the last one may be dealt with in part. -/
  handles_in_turn : ∀ before d after, calls = before ++ .pulled (.ok (some d)) :: after →
    ∃ r work, Handles c d r work ∧ after.takeWhile Activity.isWork <+: work ∧
      ((∃ a ∈ after, a.isWork = false) → after.takeWhile Activity.isWork = work)
  /-- On receipt: no command is run for a delivery that may be delivered again. -/
  at_most_once : c.ackMode = .onReceipt → ∀ before a r after,
    calls = before ++ .executed a r :: after → ∃ b d, c.dispatcher.resolve d.payload = .ok a ∧
      before = b ++ [.pulled (.ok (some d)), .acknowledged d.receipt (.ok ())]
  /-- After execution: no delivery is given up before it has been acted on. -/
  at_least_once : c.ackMode = .afterExecution → ∀ before receipt r after,
    calls = before ++ .acknowledged receipt r :: after → ∃ b d acts, receipt = d.receipt ∧
      Acts c d acts ∧ before = b ++ .pulled (.ok (some d)) :: acts

section
variable {c : Consumer} {d : Delivery} {r : Except Messaging.Error Unit} {calls : Trace}

/-- What acting executes is the action that the payload is resolved to, and nothing else. -/
theorem Acts.eq_executed (h : Acts c d calls) {a : Activity} (ha : a ∈ calls) :
    ∃ action r, c.dispatcher.resolve d.payload = .ok action ∧ a = .executed action r ∧
      calls = [.executed action r] := by
  unfold Acts at h
  split at h
  · next action hr =>
    obtain ⟨r, rfl⟩ := h
    exact ⟨action, r, hr, List.mem_singleton.1 ha, rfl⟩
  · rw [h] at ha
    cases ha

/-- Dealing with a delivery takes its acknowledgment, with the commands on one
side of it. -/
theorem Handles.cases_mode (h : Handles c d r calls) :
    (c.ackMode = .onReceipt ∧ ∃ acts, calls = .acknowledged d.receipt r :: acts ∧
        (Acts c d acts ∧ r = .ok () ∨ acts = [] ∧ ∃ e, r = .error e)) ∨
      c.ackMode = .afterExecution ∧
        ∃ acts, Acts c d acts ∧ calls = acts ++ [.acknowledged d.receipt r] := by
  unfold Handles at h
  split at h
  · next hm =>
    obtain ⟨acts, ha, rfl⟩ := h
    exact .inl ⟨hm, acts, rfl, .inl ⟨ha, rfl⟩⟩
  · next hm => exact .inl ⟨hm, [], h, .inr ⟨rfl, _, rfl⟩⟩
  · next hm => exact .inr ⟨hm, h⟩

/-- All that is called for a delivery is work on it. -/
theorem Handles.isWork (h : Handles c d r calls) : ∀ a ∈ calls, a.isWork = true := by
  have hacts : ∀ acts, Acts c d acts → ∀ a ∈ acts, a.isWork = true := by
    intro acts hacts a ha
    obtain ⟨action, r, -, rfl, -⟩ := hacts.eq_executed ha
    rfl
  intro a ha
  rcases h.cases_mode with ⟨-, acts, rfl, hr⟩ | ⟨-, acts, hw, rfl⟩
  · rcases List.mem_cons.1 ha with rfl | ha
    · rfl
    · rcases hr with ⟨hw, -⟩ | ⟨rfl, -⟩
      · exact hacts acts hw a ha
      · cases ha
  · rcases List.mem_append.1 ha with ha | ha
    · exact hacts acts hw a ha
    · rw [List.mem_singleton.1 ha]
      rfl

end

/-- Work in front of anything else is all the work there is. -/
theorem takeWhile_isWork_append {work rest : Trace} (hw : ∀ a ∈ work, a.isWork = true)
    (hr : ∃ a tail, rest = a :: tail ∧ a.isWork = false) :
    (work ++ rest).takeWhile Activity.isWork = work := by
  obtain ⟨a, tail, rfl, ha⟩ := hr
  rw [List.takeWhile_append_of_pos hw, List.takeWhile_cons_of_neg (by simp [ha]), List.append_nil]

/-- What is called while consuming does not begin with work. -/
theorem Consumes.head {c : Consumer} {calls : Trace} (h : Consumes c calls) :
    ∃ a tail, calls = a :: tail ∧ a.isWork = false := by
  cases h <;> exact ⟨_, _, rfl, rfl⟩

/-- Whether a call is part of dealing with the delivery pulled last before it. -/
def Serves (c : Consumer) (before : Trace) (a : Activity) (after : Trace) : Prop :=
  ∃ b d work r, before = b ++ .pulled (.ok (some d)) :: work ∧
    Handles c d r (work ++ a :: after.takeWhile Activity.isWork) ∧
    ∀ e, r = .error e → ∃ r', after.dropWhile Activity.isWork = [.closed r']

/-- Whether a call may stand between the calls before and after it. -/
def Placed (c : Consumer) (before : Trace) (a : Activity) (after : Trace) : Prop :=
  match a with
  | .startedConsuming _ _ => False
  | .pulled (.ok (some d)) => ∃ r, Handles c d r (after.takeWhile Activity.isWork)
  | .acknowledged receipt r => Serves c before (.acknowledged receipt r) after
  | .executed action r => Serves c before (.executed action r) after
  | _ => True

section
variable {c : Consumer} {before after : Trace} {a : Activity}

/-- It does not matter what went before the delivery pulled last. -/
theorem Serves.append (h : Serves c before a after) (earlier : Trace) :
    Serves c (earlier ++ before) a after := by
  obtain ⟨b, d, work, r, rfl, hw⟩ := h
  exact ⟨earlier ++ b, d, work, r, (List.append_assoc ..).symm, hw⟩

/-- Something called earlier does not move a call from its place. -/
theorem Placed.append (h : Placed c before a after) (earlier : Trace) :
    Placed c (earlier ++ before) a after := by
  unfold Placed at h ⊢
  split at h
  · exact h
  · exact h
  · exact Serves.append h earlier
  · exact Serves.append h earlier
  · trivial

/-- The calls that deal with a delivery are where they belong. -/
theorem placed_of_handles {d : Delivery} {r : Except Messaging.Error Unit} {work rest : Trace}
    (hw : Handles c d r work) (hhead : ∃ a tail, rest = a :: tail ∧ a.isWork = false)
    (hend : ∀ e, r = .error e → ∃ r', rest = [.closed r'])
    (hrest : ∀ before a after, rest = before ++ a :: after → Placed c before a after)
    (h : .pulled (.ok (some d)) :: (work ++ rest) = before ++ a :: after) :
    Placed c before a after := by
  rcases List.cons_eq_append_iff.1 h with ⟨rfl, ht⟩ | ⟨before, rfl, ht⟩
  · obtain ⟨rfl, rfl⟩ := List.cons.inj ht
    exact ⟨r, by rwa [takeWhile_isWork_append hw.isWork hhead]⟩
  · rcases List.append_eq_append_iff.1 ht with ⟨later, rfl, hlater⟩ | ⟨left, hwork, hleft⟩
    · -- the call comes after the work on this delivery
      rw [← List.cons_append]
      exact (hrest later a after hlater).append _
    · rcases List.cons_eq_append_iff.1 hleft with ⟨rfl, hrest'⟩ | ⟨left, rfl, rfl⟩
      · -- the call is the first one after the work
        rw [List.append_nil] at hwork
        have hp := (hrest [] a after hrest').append (.pulled (.ok (some d)) :: work)
        rwa [List.append_nil, hwork] at hp
      · -- the call is part of the work
        have hl : ∀ x ∈ left, x.isWork = true := fun x hx =>
          hw.isWork x (hwork ▸ List.mem_append_right _ (List.mem_cons_of_mem _ hx))
        have ha : a.isWork = true :=
          hw.isWork a (hwork ▸ List.mem_append_right _ (List.mem_cons_self ..))
        have hserves : Serves c (.pulled (.ok (some d)) :: before) a (left ++ rest) := by
          refine ⟨[], d, before, r, rfl, ?_, fun e he => ?_⟩
          · rwa [takeWhile_isWork_append hl hhead, ← hwork]
          · obtain ⟨r', rfl⟩ := hend e he
            exact ⟨r', by rw [List.dropWhile_append_of_pos hl]; rfl⟩
        cases a with
        | acknowledged receipt answer => exact hserves
        | executed action answer => exact hserves
        | _ => cases ha

/-- **In the language of calls, each call is where it belongs.** -/
theorem Consumes.placed {calls : Trace} (h : Consumes c calls) :
    ∀ before a after, calls = before ++ a :: after → Placed c before a after := by
  have hclosed : ∀ r before a after, ([.closed r] : Trace) = before ++ a :: after →
      Placed c before a after := by
    intro r before a after h
    rcases List.cons_eq_append_iff.1 h with ⟨rfl, ht⟩ | ⟨before, rfl, ht⟩
    · obtain ⟨rfl, rfl⟩ := List.cons.inj ht
      trivial
    · simp at ht
  induction h with
  | closes r => exact hclosed r
  | breaks p r hp =>
    intro before a after h
    rcases List.cons_eq_append_iff.1 h with ⟨rfl, ht⟩ | ⟨before, rfl, ht⟩
    · obtain ⟨rfl, rfl⟩ := List.cons.inj ht
      rcases p with e | _ | d
      · trivial
      · trivial
      · exact absurd rfl (hp d)
    · exact (hclosed r before a after ht).append [_]
  | refused d e work r hw =>
    intro before a after h
    exact placed_of_handles hw ⟨_, _, rfl, rfl⟩ (fun _ _ => ⟨r, rfl⟩) (hclosed r) h
  | handled d work rest hw hrest ih =>
    intro before a after h
    exact placed_of_handles hw hrest.head (fun _ he => by cases he) ih h

end

/-! ### The calls of a run -/

/-- **A decision acts as its payload says.** -/
theorem acts_decision (c : Consumer) (use : Services σ) (d : Delivery) (w : σ) :
    Acts c d (c.decision use d w).trace.calls := by
  unfold Acts
  rw [calls_decision]
  cases c.dispatcher.resolve d.payload with
  | ok a => exact ⟨_, rfl⟩
  | error reason => rfl

/-- **One delivery is dealt with as it should be,** and its acknowledgment tells
whether dealing with it fails. -/
theorem handles_process (c : Consumer) (use : Services σ) (d : Delivery) (s : State σ) :
    Handles c d (((c.process use d).done s).answer.map fun _ => ())
      ((c.process use d).done s).trace.calls := by
  cases hm : c.ackMode with
  | onReceipt =>
    rcases h : use.messaging.acknowledge d.receipt s.world with ⟨e | _, w⟩
    · rw [done_process_of_refused_first hm h]
      simp [Handles, hm, Except.map, Trace.calls_cons (a := .acknowledged _ _) rfl]
    · rw [done_process_of_acknowledged_first hm h]
      simpa [Handles, hm, Except.map, Trace.calls_cons (a := .acknowledged _ _) rfl]
        using acts_decision c use d w
  | afterExecution =>
    have hacts := acts_decision c use d s.world
    rcases h : use.messaging.acknowledge d.receipt (c.decision use d s.world).after with ⟨e | _, w⟩
    · rw [done_process_of_refused_last hm h]
      simpa [Handles, hm, Except.map, Trace.calls_cons (a := .acknowledged _ _) rfl] using hacts
    · rw [done_process_of_acknowledged_last hm h]
      simpa [Handles, hm, Except.map, Trace.calls_cons (a := .acknowledged _ _) rfl] using hacts

/-- A pull that brings a delivery is one call. -/
theorem calls_pulling (old : Phase) (d : Delivery) (rest : Trace) :
    Trace.calls (pulling old d ++ rest) = .pulled (.ok (some d)) :: rest.calls := by
  simp [pulling, Trace.calls_cons (a := .pulled _) rfl]

/-- **Listening makes the calls of a registered consumer.** -/
theorem consumes_listen (c : Consumer) (use : Services σ) (n : Nat) (s : State σ)
    (r : Except Messaging.Error Unit) :
    Consumes c (((c.listen use n).done s).trace.calls ++ [.closed r]) := by
  refine listen_induction c use
    (motive := fun _ _ d => Consumes c (d.trace.calls ++ [.closed r])) ?_ ?_ ?_ ?_ ?_ n s
  case refine_1 =>
    intro s
    simpa using Consumes.closes (c := c) r
  case refine_2 =>
    intro n s e w h
    simpa [Trace.calls_cons (a := .pulled _) rfl] using
      Consumes.breaks (c := c) (.error e) r (fun _ h => by cases h)
  case refine_3 =>
    intro n s w h
    simpa [Trace.calls_cons (a := .pulled _) rfl] using
      Consumes.breaks (c := c) (.ok none) r (fun _ h => by cases h)
  case refine_4 =>
    intro n s d w e t trace h hd
    have hw := handles_process c use d ⟨w, .processing, s.stats⟩
    rw [hd] at hw
    rw [calls_pulling]
    exact .refused d e _ r hw
  case refine_5 =>
    intro n s d w o t trace h hd ih
    have hw := handles_process c use d ⟨w, .processing, s.stats⟩
    rw [hd] at hw
    rw [Done.trace_precede, List.append_assoc, calls_pulling, Trace.calls_append, List.cons_append,
      List.append_assoc]
    exact .handled d _ _ hw ih

/-- **The only call after consuming is the one that closes the service.** -/
theorem calls_finish (c : Consumer) (use : Services σ) (consumed : Except Messaging.Error Unit)
    (s : State σ) : ∃ r, ((c.finish use consumed).done s).trace.calls = [.closed r] := by
  refine ⟨(use.messaging.close s.world).1, ?_⟩
  simp [done_finish, Trace.calls_cons (a := .closed _) rfl]

/-- **The calls of a run:** a registration and, unless it fails, what a
registered consumer calls; the service is closed in the end. -/
theorem calls_run (c : Consumer) (use : Services σ) (n : Nat) (s : State σ) :
    (∃ e r, ((c.run use n).done s).trace.calls =
      [.startedConsuming c.queue (.error e), .closed r]) ∨
      ∃ calls, ((c.run use n).done s).trace.calls = .startedConsuming c.queue (.ok ()) :: calls ∧
        Consumes c calls := by
  rw [done_run, Done.trace_precede, Trace.calls_append]
  rcases h : use.messaging.startConsuming c.queue s.world with ⟨e | _, w⟩
  · rw [done_consume_of_unregistered h]
    obtain ⟨r, hr⟩ := calls_finish c use (.error e) { s with world := w }
    exact .inl ⟨e, r, by rw [hr]; rfl⟩
  · rw [done_consume_of_registered h]
    obtain ⟨r, hr⟩ := calls_finish c use ((c.listen use n).done { s with world := w }).answer
      ((c.listen use n).done { s with world := w }).after
    refine .inr ⟨_, ?_, consumes_listen c use n { s with world := w } r⟩
    simp [hr, Trace.calls_cons (a := .startedConsuming _ _) rfl]

section
variable {c : Consumer} {d : Delivery} {r r' : Except Messaging.Error Unit} {work tail : Trace}

/-- Among the calls that deal with a delivery one acknowledges, and it stands
where the mode says. -/
theorem Handles.acknowledged {receipt : Receipt}
    (h : Handles c d r (work ++ .acknowledged receipt r' :: tail)) :
    receipt = d.receipt ∧ r' = r ∧ (∀ e, r = .error e → tail = []) ∧
      (c.ackMode = .afterExecution → Acts c d work) := by
  have hnot : ∀ acts, Acts c d acts → .acknowledged receipt r' ∉ acts := by
    intro acts hacts hmem
    obtain ⟨_, _, -, h, -⟩ := hacts.eq_executed hmem
    cases h
  rcases h.cases_mode with ⟨hm, acts, heq, hr⟩ | ⟨-, acts, hacts, heq⟩
  · have hwork : work = [] := by
      rcases List.append_eq_cons_iff.1 heq with ⟨hwork, -⟩ | ⟨work, -, hacts⟩
      · exact hwork
      · rcases hr with ⟨ha, -⟩ | ⟨rfl, -⟩
        · exact absurd (by rw [hacts]; simp) (hnot acts ha)
        · simp at hacts
    subst hwork
    obtain ⟨hack, rfl⟩ := List.cons.inj heq
    obtain ⟨rfl, rfl⟩ := Activity.acknowledged.inj hack
    refine ⟨rfl, rfl, fun e he => ?_, fun h => by rw [hm] at h; cases h⟩
    rcases hr with ⟨-, rfl⟩ | ⟨rfl, -⟩
    · cases he
    · rfl
  · have htail : tail = [] := by
      rcases List.eq_nil_or_concat tail with rfl | ⟨front, last, rfl⟩
      · rfl
      · rw [List.concat_eq_append, ← List.cons_append, ← List.append_assoc] at heq
        have hfront := (List.append_inj' heq rfl).1
        exact absurd (by rw [← hfront]; simp) (hnot acts hacts)
    subst htail
    obtain ⟨rfl, hlast⟩ := List.append_inj' heq rfl
    obtain ⟨rfl, rfl⟩ := Activity.acknowledged.inj (List.cons.inj hlast).1
    exact ⟨rfl, rfl, fun _ _ => rfl, fun _ => hacts⟩

/-- Among the calls that deal with a delivery each command is the one that the
payload is resolved to; on receipt it is run once the acknowledgment is through. -/
theorem Handles.executed {a : Command.Action} {result : Except Execution.Failure Execution.Result}
    (h : Handles c d r (work ++ .executed a result :: tail)) :
    c.dispatcher.resolve d.payload = .ok a ∧
      (c.ackMode = .onReceipt → work = [.acknowledged d.receipt (.ok ())]) := by
  have hacted : ∀ acts, Acts c d acts → .executed a result ∈ acts →
      c.dispatcher.resolve d.payload = .ok a ∧ acts = [.executed a result] := by
    intro acts hacts hmem
    obtain ⟨a', result', hresolve, heq, hacts⟩ := hacts.eq_executed hmem
    obtain ⟨rfl, rfl⟩ := Activity.executed.inj heq
    exact ⟨hresolve, hacts⟩
  rcases h.cases_mode with ⟨-, acts, heq, hr⟩ | ⟨hm, acts, hacts, heq⟩
  · rcases List.append_eq_cons_iff.1 heq with ⟨-, hcons⟩ | ⟨front, rfl, hacts⟩
    · cases (List.cons.inj hcons).1
    · rcases hr with ⟨ha, rfl⟩ | ⟨rfl, -⟩
      · obtain ⟨hresolve, hone⟩ := hacted acts ha (by rw [hacts]; simp)
        refine ⟨hresolve, fun _ => ?_⟩
        rw [hone] at hacts
        rcases List.cons_eq_append_iff.1 hacts with ⟨rfl, -⟩ | ⟨_, -, hnil⟩
        · rfl
        · simp at hnil
      · simp at hacts
  · refine ⟨(hacted acts hacts ?_).1, fun h => by rw [hm] at h; cases h⟩
    have hmem : Activity.executed a result ∈ acts ++ [.acknowledged d.receipt r] := by
      rw [← heq]
      simp
    rcases List.mem_append.1 hmem with hmem | hmem
    · exact hmem
    · cases List.mem_singleton.1 hmem

end

/-- Whatever follows the registration is where it belongs. -/
theorem placed_run (c : Consumer) (use : Services σ) (n : Nat) (s : State σ) :
    ∃ r rest, ((c.run use n).done s).trace.calls = .startedConsuming c.queue r :: rest ∧
      ∀ before a after, rest = before ++ a :: after → Placed c before a after := by
  rcases calls_run c use n s with ⟨e, r, h⟩ | ⟨rest, h, hrest⟩
  · exact ⟨.error e, [.closed r], h, (Consumes.closes r).placed⟩
  · exact ⟨.ok (), rest, h, hrest.placed⟩

/-- Any work within a run is done for a delivery that has been pulled before it. -/
theorem serves_run {c : Consumer} {use : Services σ} {n : Nat} {s : State σ} {before after : Trace}
    {a : Activity} (h : ((c.run use n).done s).trace.calls = before ++ a :: after)
    (ha : a.isWork = true) : Serves c before a after := by
  obtain ⟨r, rest, hcalls, hplaced⟩ := placed_run c use n s
  rw [h] at hcalls
  rcases List.append_eq_cons_iff.1 hcalls with ⟨-, hcons⟩ | ⟨before, rfl, hrest⟩
  · rw [(List.cons.inj hcons).1] at ha
    cases ha
  · have hp := hplaced before a after hrest
    cases a with
    | acknowledged receipt r => exact hp.append [_]
    | executed action r => exact hp.append [_]
    | _ => cases ha

/-- What follows a pull, up to the next call that is no work, deals with its delivery. -/
theorem handles_run {c : Consumer} {use : Services σ} {n : Nat} {s : State σ} {before after : Trace}
    {d : Delivery}
    (h : ((c.run use n).done s).trace.calls = before ++ .pulled (.ok (some d)) :: after) :
    ∃ r, Handles c d r (after.takeWhile Activity.isWork) := by
  obtain ⟨r, rest, hcalls, hplaced⟩ := placed_run c use n s
  rw [h] at hcalls
  rcases List.append_eq_cons_iff.1 hcalls with ⟨-, hcons⟩ | ⟨before, -, hrest⟩
  · cases (List.cons.inj hcons).1
  · exact hplaced before _ after hrest

/-- **The calls of a run are disciplined,** however the run goes. -/
theorem disciplined_run (c : Consumer) (use : Services σ) (n : Nat) (s : State σ) :
    Disciplined c ((c.run use n).done s).trace.calls where
  registers_first := by
    obtain ⟨r, rest, hcalls, hplaced⟩ := placed_run c use n s
    refine ⟨r, rest, hcalls, fun queue r' hmem => ?_⟩
    obtain ⟨before, after, hrest⟩ := List.append_of_mem hmem
    exact hplaced before _ after hrest
  handles_each _ _ _ h := handles_run h
  handles_last before a after h ha := by
    obtain ⟨b, d, work, r, hbefore, hw, -⟩ := serves_run h ha
    exact ⟨b, d, work, r, hbefore, hw⟩
  ends_refused before receipt e after h := by
    obtain ⟨b, d, work, r, -, hw, hend⟩ := serves_run h rfl
    obtain ⟨-, hr, htail, -⟩ := hw.acknowledged
    obtain ⟨r', hafter⟩ := hend e hr.symm
    refine ⟨r', ?_⟩
    rw [← List.takeWhile_append_dropWhile (p := Activity.isWork) (l := after), hafter,
      htail e hr.symm, List.nil_append]

/-- All that has been called at some time while a run goes on is careful. -/
theorem careful_of_prefix {c : Consumer} {use : Services σ} {n : Nat} {s : State σ} {calls : Trace}
    (h : calls <+: ((c.run use n).done s).trace.calls) : Careful c calls := by
  obtain ⟨later, hlater⟩ := h
  have hcalls : ∀ before a after, calls = before ++ a :: after →
      ((c.run use n).done s).trace.calls = before ++ a :: (after ++ later) := by
    rintro before a after rfl
    rw [← hlater, List.append_assoc, List.cons_append]
  refine ⟨fun before d after h => ?_, fun hm before a r after h => ?_,
    fun hm before receipt r after h => ?_⟩
  · obtain ⟨r, hw⟩ := handles_run (hcalls _ _ _ h)
    refine ⟨r, _, hw, ?_, fun ⟨a, ha, hwork⟩ => ?_⟩
    · rw [List.takeWhile_append]
      split
      · next hall =>
        rw [(List.takeWhile_prefix _).eq_of_length hall]
        exact List.prefix_append _ _
      · exact List.prefix_rfl
    · rw [List.takeWhile_append, if_neg]
      intro hall
      have hmem := (List.takeWhile_prefix _).eq_of_length hall ▸ ha
      rw [List.all_eq_true.1 List.all_takeWhile a hmem] at hwork
      cases hwork
  · obtain ⟨b, d, work, r', rfl, hw, -⟩ := serves_run (hcalls _ _ _ h) rfl
    obtain ⟨hresolve, hwork⟩ := hw.executed
    exact ⟨b, d, hresolve, by rw [hwork hm]⟩
  · obtain ⟨b, d, work, r', rfl, hw, -⟩ := serves_run (hcalls _ _ _ h) rfl
    obtain ⟨hreceipt, -, -, hacts⟩ := hw.acknowledged
    exact ⟨b, d, work, hreceipt, hacts hm, rfl⟩

/-- **Every run keeps the discipline of acknowledgment,** whatever the services
answer and whenever it is asked to stop; so does every part of a run that is cut
off, also of one that would go on for ever. -/
theorem acknowledgment_discipline (c : Consumer) (use : Services σ) (looks : Option Nat)
    (s : State σ) :
    (∀ d, c.Ends use looks s d → Disciplined c d.trace.calls) ∧
      ∀ calls, c.Makes use looks s calls → Careful c calls := by
  refine ⟨fun d hd => ?_, fun calls hcalls => ?_⟩
  · obtain ⟨n, rfl⟩ := hd.exists_run
    exact disciplined_run c use n s
  · obtain ⟨n, hprefix⟩ := hcalls.exists_run
    exact careful_of_prefix hprefix

end Consumer
end Remedy
