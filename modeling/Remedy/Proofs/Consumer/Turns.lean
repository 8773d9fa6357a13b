/-
# Listening turn by turn

In a turn of listening a delivery is drawn and dealt with.  Listening is one turn after
another (`turns`) and then a stop (`listen_eq_turns`), and so listening for longer is
listening on from where a shorter listening would have stopped (`turns_add`); a turn that
fails is the last one, however many were to follow.

These are equations between pieces of work, and they rest on the laws of a monad, which
`Work` obeys.
-/

import Remedy.Proofs.Consumer.Listening

namespace Remedy
namespace Consumer

open Messaging (Delivery)
open Work

variable {σ α β : Type}

/-- **Pieces of work obey the laws of a monad.** -/
instance Work.lawful : LawfulMonad (Work σ) := LawfulMonad.mk' (Work σ)
  (fun x => by
    funext s
    show andThen x ofValue s = x s
    rcases h : x s with ⟨e | a, t, trace⟩ <;> simp [andThen, h, ofValue])
  (fun a f => rfl)
  (fun x f g => by
    funext s
    show andThen (andThen x f) g s = andThen x (fun a => andThen (f a) g) s
    rcases h : x s with ⟨e | a, t, trace⟩
    · simp [andThen, h]
    · rcases hf : f a t with ⟨e | b, u, later⟩ <;> simp [andThen, h, hf])

/-- A turn of listening: a delivery is drawn and dealt with. -/
def turn (c : Consumer) (use : Services σ) : Work σ Unit := do
  enter .listening
  match ← call use.messaging.nextDelivery .pulled with
  | none => fail (.connectionClosed c.queue)
  | some d =>
    enter .processing
    let _ ← c.process use d
    return ()

/-- So many turns, one after another. -/
def turns (c : Consumer) (use : Services σ) : Nat → Work σ Unit
  | 0 => return ()
  | n + 1 => do
    c.turn use
    c.turns use n

/-- What follows the last turn, when there is a request to shut down. -/
def stop : Work σ Unit := do
  enter .listening
  log shutdownEntry

/-- **Listening is one turn after another, and then a stop.** -/
theorem listen_eq_turns (c : Consumer) (use : Services σ) (n : Nat) :
    c.listen use n = (do c.turns use n; stop) := by
  induction n with
  | zero => rfl
  | succ n ih =>
    simp only [turns, turn, bind_assoc, ← ih]
    rw [listen]
    refine bind_congr fun _ => bind_congr fun pulled => ?_
    cases pulled with
    | none => rfl
    | some d => simp only [bind_assoc, pure_bind]

/-- Some turns and some more are their sum. -/
theorem turns_add (c : Consumer) (use : Services σ) (m n : Nat) :
    c.turns use (m + n) = (do c.turns use m; c.turns use n) := by
  induction m with
  | zero => rw [Nat.zero_add, turns, pure_bind]
  | succ m ih => rw [Nat.succ_add, turns, turns, ih, bind_assoc]

section
variable {c : Consumer} {use : Services σ} {m n : Nat} {s t : State σ} {e : Messaging.Error}
  {trace : Trace}

/-- **Listening for longer is listening on.** -/
theorem done_listen_add_of_ok (h : (c.turns use m).done s = ⟨.ok (), t, trace⟩) (n : Nat) :
    (c.listen use (m + n)).done s = ((c.listen use n).done t).precede trace := by
  rw [listen_eq_turns, turns_add, bind_assoc, ← listen_eq_turns, done_bind_of_ok h]

/-- **A turn that fails is the last one.** -/
theorem done_listen_add_of_error (h : (c.turns use m).done s = ⟨.error e, t, trace⟩) (n : Nat) :
    (c.listen use (m + n)).done s = ⟨.error e, t, trace⟩ := by
  rw [listen_eq_turns, turns_add, bind_assoc, done_bind_of_error h]

/-- Listening that fails does so in one of its turns. -/
theorem exists_done_turns_of_error (h : ((c.listen use n).done s).answer = .error e) :
    ∃ t trace, (c.turns use n).done s = ⟨.error e, t, trace⟩ := by
  rcases hd : (c.turns use n).done s with ⟨e' | _, t, trace⟩
  · rw [← Nat.add_zero n, done_listen_add_of_error hd] at h
    cases h
    exact ⟨t, trace, rfl⟩
  · rw [← Nat.add_zero n, done_listen_add_of_ok hd] at h
    cases h

/-- Listening that does not fail takes all its turns. -/
theorem exists_done_turns_of_ok (h : ((c.listen use n).done s).answer = .ok ()) :
    ∃ t trace, (c.turns use n).done s = ⟨.ok (), t, trace⟩ := by
  rcases hd : (c.turns use n).done s with ⟨e | _, t, trace⟩
  · rw [← Nat.add_zero n, done_listen_add_of_error hd] at h
    cases h
  · exact ⟨t, trace, rfl⟩

/-- **Consuming that has failed fails in the same way if it may go on for longer.** -/
theorem done_consume_add_of_error (h : ((c.consume use m).done s).answer = .error e) (n : Nat) :
    (c.consume use (m + n)).done s = (c.consume use m).done s := by
  rcases hs : use.messaging.startConsuming c.queue s.world with ⟨e' | _, w⟩
  · rw [done_consume_of_unregistered hs, done_consume_of_unregistered hs]
  · rw [done_consume_of_registered hs] at h ⊢
    obtain ⟨t, trace, ht⟩ := exists_done_turns_of_error h
    rw [done_consume_of_registered hs, done_listen_add_of_error ht, ← Nat.add_zero m,
      done_listen_add_of_error ht]

/-- **A run ends in one way.** -/
theorem Ends.unique {looks : Option Nat} {d d' : Done σ Unit} (h : c.Ends use looks s d)
    (h' : c.Ends use looks s d') : d = d' := by
  obtain ⟨m, rfl, hm⟩ := ends_iff.1 h
  obtain ⟨n, rfl, hn⟩ := ends_iff.1 h'
  rcases hm with rfl | ⟨rfl, e, he⟩
  · obtain rfl : m = n := by simpa using hn
    rfl
  · obtain ⟨-, e', he'⟩ := hn.resolve_left (by simp)
    have hconsume : (c.consume use m).done s = (c.consume use n).done s := by
      rcases Nat.le_total m n with hle | hle <;> obtain ⟨k, rfl⟩ := Nat.exists_eq_add_of_le hle
      · exact (done_consume_add_of_error he k).symm
      · exact done_consume_add_of_error he' k
    rw [done_run, done_run, hconsume]

end

end Consumer
end Remedy
