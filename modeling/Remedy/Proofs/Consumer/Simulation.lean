/-
# Services that cannot be told apart

A consumer reaches its world through its services alone.  If those of two consumers give
the same answers in related worlds, and keep the worlds related (`Simulates`), then the
consumers do the same: their work has the same answers, runs the same commands and makes
the same counts (`Alike`), however many deliveries they deal with (`Simulates.turns`).

The proof follows the pieces that work is made of: what two pieces do alike from related
states (`Matches`), they do alike one after another (`Matches.bind`).  A relation of a
world with itself gives what the services keep (`Preserves`).
-/

import Remedy.Proofs.Consumer.Effect
import Remedy.Proofs.Consumer.Turns

namespace Remedy
namespace Consumer

open Messaging (Delivery Receipt)
open Work

variable {σ τ α β : Type}

/-- Whether two pieces of work have left the same behind, in worlds that are related. -/
structure Alike (R : σ → τ → Prop) (d : Done σ α) (d' : Done τ α) : Prop where
  answer : d.answer = d'.answer
  world : R d.after.world d'.after.world
  stats : d.after.stats = d'.after.stats
  executions : d.trace.executions = d'.trace.executions

/-- Whether two pieces of work do the same from related worlds and equal counts. -/
def Matches (R : σ → τ → Prop) (x : Work σ α) (y : Work τ α) : Prop :=
  ∀ s t, R s.world t.world → s.stats = t.stats → Alike R (x.done s) (y.done t)

section
variable {R : σ → τ → Prop} {x : Work σ α} {y : Work τ α} {s : State σ} {t : State τ}

/-- **Alike beginnings with matching continuations are alike.** -/
theorem Alike.bind (h : Alike R (x.done s) (y.done t)) {f : α → Work σ β} {g : α → Work τ β}
    (hfg : ∀ a, Matches R (f a) (g a)) : Alike R ((x >>= f).done s) ((y >>= g).done t) := by
  rcases hx : x.done s with ⟨e | a, s', trace⟩ <;> rcases hy : y.done t with ⟨e' | a', t', trace'⟩ <;>
    rw [hx, hy] at h
  · obtain rfl := Except.error.inj h.answer
    rw [done_bind_of_error hx, done_bind_of_error hy]
    exact ⟨rfl, h.world, h.stats, h.executions⟩
  · cases h.answer
  · cases h.answer
  · obtain rfl := Except.ok.inj h.answer
    rw [done_bind_of_ok hx, done_bind_of_ok hy]
    have hrest := hfg a s' t' h.world h.stats
    exact ⟨hrest.answer, hrest.world, hrest.stats, by
      rw [Done.trace_precede, Done.trace_precede, Trace.executions_append,
        Trace.executions_append, hrest.executions]
      exact congrArg (· ++ _) h.executions⟩

/-- Computations match if their parts do. -/
theorem Matches.bind (h : Matches R x y) {f : α → Work σ β} {g : α → Work τ β}
    (hfg : ∀ a, Matches R (f a) (g a)) : Matches R (x >>= f) (y >>= g) :=
  fun s t hw hs => (h s t hw hs).bind hfg

/-- A value matches itself. -/
theorem Matches.pure (a : α) : Matches R (pure a : Work σ α) (pure a : Work τ α) :=
  fun _ _ hw hs => ⟨rfl, hw, hs, rfl⟩

/-- A failure matches itself. -/
theorem Matches.fail (e : Messaging.Error) : Matches R (fail e : Work σ α) (fail e : Work τ α) :=
  fun _ _ hw hs => ⟨rfl, hw, hs, rfl⟩

/-- Entries match whatever they tell. -/
theorem Matches.log (entry entry' : Log.Entry) : Matches R (log entry) (log entry') :=
  fun _ _ hw hs => ⟨rfl, hw, hs, rfl⟩

/-- Counts match if they are counted alike. -/
theorem Matches.count (f : Stats → Stats) : Matches R (count f) (count f) :=
  fun _ _ hw hs => ⟨rfl, hw, congrArg f hs, rfl⟩

/-- A phase that is entered matches itself. -/
theorem Matches.enter (p : Phase) : Matches R (enter p) (enter p) := fun s t hw hs =>
  ⟨rfl, hw, hs, (Trace.executions_entering s.phase p).trans
    (Trace.executions_entering t.phase p).symm⟩

/-- Work that is done under a condition, and the rest. -/
theorem Matches.when_bind (p : Prop) [Decidable p] (h : Matches R x y) {f : α → Work σ β}
    {g : α → Work τ β} {z : Work σ β} {z' : Work τ β} (hfg : ∀ a, Matches R (f a) (g a))
    (hz : Matches R z z') :
    Matches R (if p then x >>= f else z) (if p then y >>= g else z') := by
  split
  · exact h.bind hfg
  · exact hz

/-- Calls that are answered alike match, unless they run commands. -/
theorem Matches.call {f : σ → Except Messaging.Error α × σ} {g : τ → Except Messaging.Error α × τ}
    {activity : Except Messaging.Error α → Activity}
    (h : ∀ w w', R w w' → (f w).1 = (g w').1 ∧ R (f w).2 (g w').2)
    (ha : ∀ r, Trace.executions [activity r] = []) :
    Matches R (call f activity) (call g activity) := fun _ _ hw hs =>
  ⟨(h _ _ hw).1, (h _ _ hw).2, hs, (ha _).trans (ha _).symm⟩

end

/-- **Decisions about one payload are alike** if the executors are. -/
theorem decision_alike {R : σ → τ → Prop} (c : Consumer) {use : Services σ} {use' : Services τ}
    {d d' : Delivery} {w : σ} {w' : τ} (hd : d.payload = d'.payload) (hw : R w w')
    (hx : ∀ a, (use.executor.execute a w).outcome = (use'.executor.execute a w').outcome ∧
      R (use.executor.execute a w).after (use'.executor.execute a w').after) :
    (c.decision use d w).outcome = (c.decision use' d' w').outcome ∧
      R (c.decision use d w).after (c.decision use' d' w').after ∧
      (c.decision use d w).trace.executions = (c.decision use' d' w').trace.executions := by
  rw [executions_decision, executions_decision]
  unfold decision
  rw [← hd]
  cases c.dispatcher.resolve d.payload with
  | error reason => exact ⟨rfl, hw, rfl⟩
  | ok a =>
    obtain ⟨houtcome, hafter⟩ := hx a
    exact ⟨congrArg Outcome.ofExecution houtcome, hafter, congrArg (fun r => [(a, r)]) houtcome⟩

/-- **Whether services answer alike in related worlds** and keep them related: those that
are used while listening. -/
structure Simulates (R : σ → τ → Prop) (use : Services σ) (use' : Services τ) : Prop where
  next_delivery : ∀ w w', R w w' →
    (use.messaging.nextDelivery w).1 = (use'.messaging.nextDelivery w').1 ∧
      R (use.messaging.nextDelivery w).2 (use'.messaging.nextDelivery w').2
  acknowledge : ∀ receipt w w', R w w' →
    (use.messaging.acknowledge receipt w).1 = (use'.messaging.acknowledge receipt w').1 ∧
      R (use.messaging.acknowledge receipt w).2 (use'.messaging.acknowledge receipt w').2
  execute : ∀ a w w', R w w' →
    (use.executor.execute a w).outcome = (use'.executor.execute a w').outcome ∧
      R (use.executor.execute a w).after (use'.executor.execute a w').after

namespace Simulates

variable {R : σ → τ → Prop} {use : Services σ} {use' : Services τ} {c : Consumer}

/-- Acknowledging matches where the services do. -/
theorem acknowledging (h : Simulates R use use') (d : Delivery) :
    Matches R (Consumer.acknowledge use d) (Consumer.acknowledge use' d) :=
  (Matches.call (h.acknowledge d.receipt) fun _ => rfl).bind fun _ =>
    (Matches.count _).bind fun _ => .log _ _

/-- Deciding matches where the services do. -/
theorem deciding (h : Simulates R use use') (d : Delivery) :
    Matches R (c.decide use d) (c.decide use' d) := by
  intro s t hw hs
  obtain ⟨houtcome, hafter, hexecutions⟩ :=
    decision_alike c (d := d) rfl hw fun a => h.execute a _ _ hw
  rw [done_decide, done_decide]
  exact ⟨congrArg Except.ok houtcome, hafter, hs, hexecutions⟩

/-- **One delivery is dealt with alike.** -/
theorem processing (h : Simulates R use use') (d : Delivery) :
    Matches R (c.process use d) (c.process use' d) := by
  have hreport : ∀ o, Matches R
      (do log ((outcomeReport d o).within (spanOf d)); return o)
      (do log ((outcomeReport d o).within (spanOf d)); return o) := fun o =>
    (Matches.log _ _).bind fun _ => .pure o
  have hlast := fun o => (h.acknowledging d).when_bind (c.ackMode = .afterExecution)
    (fun _ => hreport o) (hreport o)
  have hrest := (h.deciding (c := c) d).bind fun o =>
    (Matches.count fun s => s.record o).bind fun _ => hlast o
  exact (Matches.count _).bind fun _ => (Matches.log _ _).bind fun _ =>
    (h.acknowledging d).when_bind (c.ackMode = .onReceipt) (fun _ => hrest) hrest

/-- A turn matches where the services do. -/
theorem turn (h : Simulates R use use') : Matches R (c.turn use) (c.turn use') := by
  refine (Matches.enter _).bind fun _ => (Matches.call h.next_delivery fun _ => rfl).bind
    fun pulled => ?_
  cases pulled with
  | none => exact .fail _
  | some d => exact (Matches.enter _).bind fun _ => (h.processing d).bind fun _ => .pure ()

/-- **Any number of turns are taken alike.** -/
theorem turns (h : Simulates R use use') (n : Nat) : Matches R (c.turns use n) (c.turns use' n) := by
  induction n with
  | zero => exact .pure ()
  | succ n ih => exact h.turn.bind fun _ => ih

/-- **The loop matches where the services do,** by induction on the number of looks. -/
theorem listen (h : Simulates R use use') (n : Nat) :
    Matches R (c.listen use n) (c.listen use' n) := by
  rw [listen_eq_turns, listen_eq_turns]
  exact (h.turns n).bind fun _ => (Matches.enter _).bind fun _ => .log _ _

end Simulates

/-- What the services keep while listening. -/
structure Preserves (P : σ → Prop) (use : Services σ) : Prop where
  next_delivery : ∀ w, P w → P (use.messaging.nextDelivery w).2
  acknowledge : ∀ receipt w, P w → P (use.messaging.acknowledge receipt w).2
  execute : ∀ a w, P w → P (use.executor.execute a w).after

section
variable {P : σ → Prop} {use : Services σ} {s : State σ}

/-- What is kept is a relation of a world with itself. -/
theorem Preserves.simulates (h : Preserves P use) :
    Simulates (fun w w' => w = w' ∧ P w) use use where
  next_delivery := by
    rintro w _ ⟨rfl, hw⟩
    exact ⟨rfl, rfl, h.next_delivery w hw⟩
  acknowledge := by
    rintro receipt w _ ⟨rfl, hw⟩
    exact ⟨rfl, rfl, h.acknowledge receipt w hw⟩
  execute := by
    rintro a w _ ⟨rfl, hw⟩
    exact ⟨rfl, rfl, h.execute a w hw⟩

/-- **What the services keep, the turns keep.** -/
theorem Preserves.turns (h : Preserves P use) (c : Consumer) (n : Nat) (hs : P s.world) :
    P ((c.turns use n).done s).after.world :=
  (h.simulates.turns n s s ⟨rfl, hs⟩ rfl).world.2

/-- What the calls of a service and an executor preserve is preserved by dealing with a delivery.
-/
theorem Preserves.processing (h : Preserves P use) (c : Consumer) (d : Delivery)
    (hs : P s.world) : P ((c.process use d).done s).after.world :=
  (h.simulates.processing d s s ⟨rfl, hs⟩ rfl).world.2

/-- And so does listening. -/
theorem Preserves.listen (h : Preserves P use) (c : Consumer) (n : Nat) (hs : P s.world) :
    P ((c.listen use n).done s).after.world :=
  (h.simulates.listen n s s ⟨rfl, hs⟩ rfl).world.2

/-- What holds once a delivery has been drawn, still holds at the end. -/
theorem Preserves.listen_of_pulled (h : Preserves P use) (c : Consumer) (n : Nat)
    {d : Delivery} {w : σ} (hnext : use.messaging.nextDelivery s.world = (.ok (some d), w))
    (hw : P w) : P ((c.listen use (n + 1)).done s).after.world := by
  have hprocess := h.processing c d (s := ⟨w, .processing, s.stats⟩) hw
  rcases hd : (c.process use d).done ⟨w, .processing, s.stats⟩ with ⟨e | o, t, trace⟩ <;>
    rw [hd] at hprocess
  · rw [done_listen_of_refused hnext hd]
    exact hprocess
  · rw [done_listen_of_handled hnext hd]
    exact h.listen c n hprocess

end

end Consumer
end Remedy
