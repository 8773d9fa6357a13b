/-
# What is told about the phases

Each change of phase is told, and nothing else is told as one (`Told`).  This composes,
over the parts of a run and over the life of a consumer, and so the transitions that are
told form a path: it starts at connecting, each one starts where the one before has ended,
and each is one of the seven that there are (`phases_in_order`).  That there are no others
follows from the words that runs enter.
-/

import Mathlib.Data.List.Chain
import Remedy.Proofs.Consumer.Phases

namespace Remedy
namespace Consumer

open Messaging (Delivery)
open Work

variable {σ : Type}

/-- The transition that an activity tells.  What is told during the work on a delivery is
told within its span, so nothing that an executor tells is taken for a transition. -/
def Activity.transition? : Activity → Option Log.Event
  | .logged ⟨e, none⟩ => if e.message = "Consumer state transition" then some e else none
  | _ => none

namespace Trace

/-- The transitions that are told, in order. -/
def transitions (t : Trace) : List Log.Event := t.filterMap Activity.transition?

@[simp] theorem transitions_append (t u : Trace) :
    transitions (t ++ u) = t.transitions ++ u.transitions := List.filterMap_append

/-- Entering a phase is told unless it is the current one. -/
theorem transitions_entering (old new : Phase) :
    transitions (entering old new) = if old = new then [] else [transitionEvent old new] := by
  unfold entering
  split <;> rfl

end Trace

/-- What is done inside a phase tells of no transition. -/
theorem transitions_of_isInside {t : Trace} (h : ∀ a ∈ t, a.isInside = true) : t.transitions = [] := by
  refine List.filterMap_eq_nil_iff.2 fun a ha => ?_
  have hin := h a ha
  cases a with
  | logged e =>
    obtain ⟨e, _ | span⟩ := e
    · cases hin
    · rfl
  | _ => rfl

/-! ### Changes -/

/-- The changes among phases that are entered in turn, from a phase on. -/
def changes (p : Phase) : List Phase → List (Phase × Phase)
  | [] => []
  | q :: rest => if p = q then changes q rest else (p, q) :: changes q rest

/-- The changes along two lists of phases. -/
theorem changes_append (p : Phase) (ps qs : List Phase) :
    changes p (ps ++ qs) = changes p ps ++ changes (ps.getLastD p) qs := by
  induction ps generalizing p with
  | nil => rfl
  | cons q ps ih =>
    rw [List.cons_append, List.getLastD_cons, changes, changes, ih]
    split <;> rfl

/-- A change leads to another phase. -/
theorem ne_of_mem_changes {p : Phase} {ps : List Phase} {e : Phase × Phase}
    (h : e ∈ changes p ps) : e.1 ≠ e.2 := by
  induction ps generalizing p with
  | nil => cases h
  | cons q ps ih =>
    rw [changes] at h
    split at h
    · exact ih h
    · next hne =>
      rcases List.mem_cons.1 h with rfl | h
      · exact hne
      · exact ih h

/-- The first change starts where the phases do. -/
theorem head?_changes (p : Phase) (ps : List Phase) :
    ∀ e ∈ (changes p ps).head?, e.1 = p := by
  induction ps generalizing p with
  | nil => intro e he; cases he
  | cons q ps ih =>
    intro e he
    rw [changes] at he
    split at he
    · next h => rw [h]; exact ih q e he
    · rw [← Option.some.inj he]

/-- **Each change starts where the one before has ended.** -/
theorem isChain_changes (p : Phase) (ps : List Phase) :
    (changes p ps).IsChain fun e e' => e.2 = e'.1 := by
  induction ps generalizing p with
  | nil => exact .nil
  | cons q ps ih =>
    rw [changes]
    split
    · exact ih q
    · exact List.isChain_cons.2 ⟨fun e he => (head?_changes q ps e he).symm, ih q⟩

/-- **Whether a trace that leads from one phase to another tells the changes of phase,**
all of them and no others. -/
structure Told (p q : Phase) (t : Trace) : Prop where
  phase : q = t.phaseFrom p
  transitions : t.transitions = (changes p t.phases).map fun e => transitionEvent e.1 e.2

namespace Told

variable {p q r : Phase} {t u : Trace}

/-- **What is told of two parts is told of both together.** -/
theorem append (h : Told p q t) (h' : Told q r u) : Told p r (t ++ u) where
  phase := by rw [h'.phase, h.phase, Trace.phaseFrom_append]
  transitions := by
    have hq : q = t.phases.getLastD p := h.phase
    rw [Trace.transitions_append, Trace.phases_append, changes_append, List.map_append, ← hq,
      h.transitions, h'.transitions]

/-- Entering a phase is told as it is done. -/
theorem entering (old new : Phase) : Told old new (entering old new) where
  phase := (Trace.phaseFrom_entering ..).symm
  transitions := by
    rw [Trace.transitions_entering, Trace.phases_entering, changes, changes]
    split <;> rfl

/-- Where no phase is entered and no transition told, the phase is the same. -/
theorem refl (p : Phase) (hp : t.phases = []) (ht : t.transitions = []) : Told p p t where
  phase := (Trace.phaseFrom_of_phases_eq_nil hp p).symm
  transitions := by
    rw [ht, hp]
    rfl

/-- Other events tell nothing about the phases. -/
theorem event (p : Phase) (level : Log.Level) {message : String}
    (h : message ≠ "Consumer state transition") (fields : Log.Fields) :
    Told p p [.logged (event level message fields).entry] :=
  .refl p rfl (List.filterMap_cons_none (if_neg h))

/-- A pull changes no phase. -/
theorem pulled (p : Phase) (r : Except Messaging.Error (Option Delivery)) :
    Told p p [.pulled r] := .refl p rfl rfl

/-- What is told of a pull that brings a delivery. -/
theorem pulling (old : Phase) (d : Delivery) : Told old .processing (pulling old d) := by
  have h := ((Told.entering old .listening).append (.pulled .listening (.ok (some d)))).append
    (.entering .listening .processing)
  rwa [List.append_assoc] at h

end Told

section
variable (c : Consumer) (use : Services σ)

/-- Dealing with a delivery tells of no transition. -/
theorem transitions_process (d : Delivery) (s : State σ) :
    ((c.process use d).done s).trace.transitions = [] :=
  transitions_of_isInside (isInside_process c use d s)

/-- Dealing with a delivery leaves the phase as it is. -/
theorem told_process (d : Delivery) (s : State σ) :
    Told s.phase ((c.process use d).done s).after.phase ((c.process use d).done s).trace := by
  rw [phase_process]
  exact .refl _ (phases_process c use d s) (transitions_process c use d s)

/-- What is told of a round. -/
theorem told_round {d : Delivery} {w : σ} {stats : Stats} {r : Except Messaging.Error Outcome}
    {t : State σ} {trace : Trace}
    (hd : (c.process use d).done ⟨w, .processing, stats⟩ = ⟨r, t, trace⟩) (old : Phase) :
    Told old t.phase (pulling old d ++ trace) := by
  have hprocess := told_process c use d ⟨w, .processing, stats⟩
  rw [hd] at hprocess
  exact (Told.pulling old d).append hprocess

/-- **What is told by the loop,** by induction on how it goes. -/
theorem told_listen (n : Nat) (s : State σ) :
    Told s.phase ((c.listen use n).done s).after.phase ((c.listen use n).done s).trace := by
  refine listen_induction c use
    (motive := fun _ s d => Told s.phase d.after.phase d.trace) ?_ ?_ ?_ ?_ ?_ n s
  case refine_1 =>
    intro s
    exact (Told.entering ..).append (.event _ _ (by decide) _)
  case refine_2 =>
    intro n s e w h
    exact (Told.entering ..).append (.pulled ..)
  case refine_3 =>
    intro n s w h
    exact (Told.entering ..).append (.pulled ..)
  case refine_4 =>
    intro n s d w e t trace h hd
    exact told_round c use hd _
  case refine_5 =>
    intro n s d w o t trace h hd ih
    exact (told_round c use hd _).append ih

/-- What is told while consuming. -/
theorem told_consume (n : Nat) (s : State σ) :
    Told s.phase ((c.consume use n).done s).after.phase ((c.consume use n).done s).trace := by
  rcases h : use.messaging.startConsuming c.queue s.world with ⟨e | _, w⟩
  · rw [done_consume_of_unregistered h]
    exact .refl _ rfl rfl
  · rw [done_consume_of_registered h]
    have hstarted : Told s.phase s.phase [.startedConsuming c.queue (.ok ())] := .refl _ rfl rfl
    exact (hstarted.append (.event _ _ (by decide) _)).append
      (told_listen c use n { s with world := w })

/-- What is told at the close: the last phase is entered. -/
theorem told_finish (consumed : Except Messaging.Error Unit) (s : State σ) :
    Told s.phase .terminated ((c.finish use consumed).done s).trace := by
  have hwarning : ∀ closed, Told .terminated .terminated (closeWarning consumed closed) := by
    intro closed
    unfold closeWarning
    split
    · exact .event _ _ (by decide) _
    · exact .refl _ rfl rfl
  have hclosed : ∀ closed, Told .terminated .terminated [.closed closed] :=
    fun closed => .refl _ rfl rfl
  rw [done_finish]
  exact (Told.entering ..).append ((hclosed _).append
    ((Told.event _ _ (by decide) _).append (hwarning _)))

/-- **A run tells its changes of phase.** -/
theorem told_run (n : Nat) (s : State σ) :
    Told s.phase .terminated ((c.run use n).done s).trace :=
  (told_consume c use n s).append (told_finish c use _ _)

end

/-! ### The path of a life -/

/-- The seven transitions that there are. -/
def Phase.moves : List (Phase × Phase) :=
  [(.connecting, .listening), (.connecting, .terminated), (.listening, .processing),
    (.processing, .listening), (.listening, .terminated), (.processing, .terminated),
    (.terminated, .listening)]

/-- Going round takes no other transitions, if what follows does not. -/
theorem changes_rounds {k : Nat} {ps : List Phase}
    (h : ∀ e ∈ changes .listening ps, e ∈ Phase.moves) :
    ∀ e ∈ changes .listening (rounds k ++ ps), e ∈ Phase.moves := by
  induction k with
  | zero => exact h
  | succ k ih =>
    intro e he
    rcases List.mem_cons.1 he with rfl | he
    · decide
    · rcases List.mem_cons.1 he with rfl | he
      · decide
      · exact ih e he

/-- Whether a consumer may be run in a phase: it has just been made, or it is terminated. -/
def Phase.isIdle (p : Phase) : Prop := p = .connecting ∨ p = .terminated

/-- A run takes no other transitions, from either of the phases in which it may begin. -/
theorem Word.changes_mem {p : Phase} {t : Trace} (h : Word t) (hp : p.isIdle) :
    ∀ e ∈ changes p t.phases, e ∈ Phase.moves := by
  have hlistening : ∀ ps, (∀ e ∈ changes .listening ps, e ∈ Phase.moves) →
      ∀ k, ∀ e ∈ changes p (.listening :: rounds k ++ ps), e ∈ Phase.moves := by
    intro ps hps k e he
    rcases hp with rfl | rfl
    · rcases List.mem_cons.1 he with rfl | he
      · decide
      · exact changes_rounds hps e he
    · rcases List.mem_cons.1 he with rfl | he
      · decide
      · exact changes_rounds hps e he
  rcases h.form with hw | ⟨k, hw⟩ | ⟨k, hw⟩
  · rw [hw]
    rcases hp with rfl | rfl <;> decide
  · rw [hw]
    exact hlistening _ (by decide) k
  · rw [hw]
    exact hlistening _ (by decide) k

/-- **Whether the transitions that a trace tells form a path** from connecting to a phase. -/
structure Path (q : Phase) (t : Trace) : Prop where
  told : t.transitions =
    (changes .connecting t.phases).map fun e => transitionEvent e.1 e.2
  starts : ∀ e ∈ (changes .connecting t.phases).head?, e.1 = .connecting
  joined : (changes .connecting t.phases).IsChain fun e e' => e.2 = e'.1
  moves : ∀ e ∈ changes .connecting t.phases, e.1 ≠ e.2 ∧ e ∈ Phase.moves
  ends : q = t.phaseFrom .connecting

/-- After a run all is over. -/
theorem phase_run (c : Consumer) (use : Services σ) (n : Nat) (s : State σ) :
    ((c.run use n).done s).after.phase = .terminated := by
  rw [done_run, Done.after_precede, done_finish]

section
variable {c : Consumer} {use : Services σ} {s : State σ} {t : Trace}

/-- Between two runs a consumer is idle. -/
theorem Lives.isIdle (h : c.Lives use s t) : s.phase.isIdle := by
  induction h with
  | made w => exact .inl rfl
  | shared w _ ih => exact ih
  | ran _ hd _ =>
    obtain ⟨n, rfl⟩ := hd.exists_run
    exact .inr (phase_run c use n _)
  | handled d _ ih =>
    rw [Phase.isIdle, phase_process]
    exact ih

/-- **All phases of a life are told,** from connecting on. -/
theorem Lives.told (h : c.Lives use s t) : Told .connecting s.phase t := by
  induction h with
  | made w => exact .refl _ rfl rfl
  | shared w _ ih => exact ih
  | ran _ hd ih =>
    obtain ⟨n, rfl⟩ := hd.exists_run
    rw [phase_run]
    exact ih.append (told_run c use n _)
  | handled d _ ih => exact ih.append (told_process c use d _)

/-- **Over its life a consumer takes none but the seven transitions.** -/
theorem Lives.changes_mem (h : c.Lives use s t) :
    ∀ e ∈ changes .connecting t.phases, e ∈ Phase.moves := by
  induction h with
  | made w => intro e he; cases he
  | shared w _ ih => exact ih
  | @ran s t _ _ hs hd ih =>
    obtain ⟨n, rfl⟩ := hd.exists_run
    have hphase : s.phase = t.phases.getLastD .connecting := hs.told.phase
    -- the changes of this run begin in the phase where those before it have ended
    intro e he
    rw [Trace.phases_append, changes_append, ← hphase] at he
    rcases List.mem_append.1 he with he | he
    · exact ih e he
    · exact (word_run c use n s).changes_mem hs.isIdle e he
  | handled d hs ih =>
    intro e he
    rw [Trace.phases_append, phases_process, List.append_nil] at he
    exact ih e he

/-- **What is told of a life is a path.** -/
theorem Lives.path (h : c.Lives use s t) : Path s.phase t where
  told := h.told.transitions
  starts := head?_changes _ _
  joined := isChain_changes _ _
  moves e he := ⟨ne_of_mem_changes he, h.changes_mem e he⟩
  ends := h.told.phase

end

/-- **The phases are entered in order,** whatever the services do.  A run enters a word of
the language and ends terminated; each call in it is made in its phase, also if the run is
cut off; a delivery that is handed to the consumer leaves the phase alone; and over a life
the transitions that are told are a path. -/
theorem phases_in_order (c : Consumer) (use : Services σ) :
    (∀ looks s d, c.Ends use looks s d →
      Word d.trace ∧ InPhase s.phase d.trace ∧ d.after.phase = .terminated) ∧
    (∀ n s t, t <+: ((c.run use n).done s).trace → InPhase s.phase t) ∧
    (∀ d s, let done := (c.process use d).done s
      done.trace.phases = [] ∧ done.trace.transitions = [] ∧ done.after.phase = s.phase) ∧
    ∀ s t, c.Lives use s t → Path s.phase t := by
  refine ⟨fun looks s d hd => ?ends, fun n s t ht => ?cut_off,
    fun d s => ⟨phases_process c use d s, transitions_process c use d s,
      phase_process c use d s⟩, fun s t h => h.path⟩
  case ends =>
    obtain ⟨n, rfl⟩ := hd.exists_run
    exact ⟨word_run c use n s, inPhase_run c use n s, phase_run c use n s⟩
  case cut_off =>
    obtain ⟨rest, hrest⟩ := ht
    exact (hrest ▸ inPhase_run c use n s).of_append

/-- A consumer that is handed a delivery, and then run with a broker that refuses its
acknowledgment. -/
theorem phases_in_order_of_refusal :
    let c : Consumer := ⟨⟨⟨⟨"", .empty⟩, ["a"]⟩, .standard⟩, "alerts", .onReceipt⟩
    let use : Services Messaging.Connection := ⟨.inMemory, ⟨fun _ w => ⟨.ok (.ofExitStatus 0 0), w, []⟩⟩⟩
    let b : Messaging.Broker :=
      { Messaging.Broker.empty with queues := [("alerts", [⟨[97], false⟩])], refusesAcks := true }
    let first := (c.process use ⟨.ofTag 7, [98], false⟩).done (.initial ⟨b, none⟩)
    ∃ d, c.Ends use (some 2) first.after d ∧
      d.trace.phases = [.listening, .processing, .terminated] ∧
      Word d.trace ∧ InPhase .connecting d.trace ∧ Path .terminated (first.trace ++ d.trace) := by
  intro c use b first
  have hends : c.Ends use (some 2) first.after ((c.run use 2).done first.after) := rfl
  have hlives : c.Lives use (.initial ⟨b, none⟩) [] := .made _
  obtain ⟨hword, hcalls, hafter⟩ := (phases_in_order c use).1 _ _ _ hends
  have hpath := (phases_in_order c use).2.2.2 _ _ ((hlives.handled _).ran hends)
  rw [hafter] at hpath
  exact ⟨_, hends, by decide, hword, hcalls, hpath⟩

end Consumer
end Remedy
