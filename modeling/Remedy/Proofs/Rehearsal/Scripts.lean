/-
# Rehearsals follow scripts

The executor of a rehearsal goes by a table that says what happens for each target.  It is
one of those that follow scripts: the table gives a script for each action and each list of
earlier targets (`Scripts.follow`), and executing the action is going through that script
(`execute_eq_play`).

What is known of consumers whose executors follow scripts is thus known of rehearsals in
which nothing is made to fail: these listen alike (`simulates_scripted`).
-/

import Remedy.Proofs.Consumer.Script
import Remedy.Rehearsal.Step

namespace Remedy
namespace Rehearsal

open Consumer (Services Simulates)
open Messaging (Broker Connection Payload Session)

/-- The script that sends some payloads, whatever the broker answers, and goes on. -/
def sending (queue : String) (payloads : List Payload) (next : Consumer.Script (List String)) :
    Consumer.Script (List String) :=
  payloads.foldr (fun payload next => .send queue payload false fun _ => next) next

/-- The side effects of the first command for a target as a script that goes on. -/
def Script.follow (s : Script) (queue : String) (next : Consumer.Script (List String)) :
    Consumer.Script (List String) :=
  match s.refuseAcks with
  | some refuse => .refuseAcks refuse (sending queue s.sends next)
  | none => sending queue s.sends next

/-- The script for an action, after commands for some targets. -/
def Scripts.follow (scripts : Scripts) (queue : String) (a : Command.Action)
    (executed : List String) : Consumer.Script (List String) :=
  let target := a.target.text
  let earlier := executed.count target
  let next := .answer ⟨(scripts.of target).ending.after earlier, target :: executed, []⟩
  if earlier = 0 then (scripts.of target).follow queue next else next

/-- The connection of the consumer in a world. -/
def World.connection (w : World) : Connection := w.session.inner.connection consumerClient

/-- Sending payloads leaves what sending them one after the other does, by induction on them. -/
theorem play_sending (queue : String) (payloads : List Payload)
    (next : Consumer.Script (List String)) (c : Connection) :
    (sending queue payloads next).play c = next.play { c with
      broker := payloads.foldl (fun b payload => (b.push queue ⟨payload, false⟩).2) c.broker } := by
  induction payloads generalizing c with
  | nil => rfl
  | cons payload payloads ih =>
    show (sending queue payloads next).play (c.send queue payload false).2 = _
    rw [ih, Connection.send, List.foldl_cons]

/-- What a script does before the end of its command. -/
theorem play_follow (s : Script) (queue : String) (next : Consumer.Script (List String))
    (c : Connection) :
    (s.follow queue next).play c = next.play { c with broker := s.effects queue c.broker } := by
  unfold Script.follow Script.effects
  cases s.refuseAcks with
  | none => exact play_sending queue s.sends next c
  | some refuse => exact play_sending queue s.sends next (c.refusing refuse)

/-- **To execute an action is to go through its script.** -/
theorem execute_eq_play (scripts : Scripts) (queue : String) (a : Command.Action) (w : World) :
    let report := (scripts.executor queue).execute a w
    (scripts.follow queue a w.executed).play w.connection =
      ⟨report.outcome, (report.after.connection, report.after.executed), report.events⟩ := by
  unfold Scripts.follow Scripts.executor
  by_cases h : w.executed.count a.target.text = 0
  · simp only [h, if_true]
    rw [play_follow]
    rfl
  · simp only [h, if_false]
    rfl

/-- Executing an action neither adds a client to the broker nor takes one away. -/
theorem clients_execute (scripts : Scripts) (queue : String) (a : Command.Action) (w : World) :
    ((scripts.executor queue).execute a w).after.session.inner.clients =
      w.session.inner.clients := by
  unfold Scripts.executor
  by_cases h : w.executed.count a.target.text = 0
  · simp only [h, if_true]
    rfl
  · simp only [h, if_false]

/-- Whether a world is one with a given connection and with commands run for given targets. -/
structure Shows (w : World) (v : Connection × List String) : Prop where
  connected : consumerClient < w.session.inner.clients.length
  connection : w.connection = v.1
  executed : w.executed = v.2

/-- The consumer's connection is what it is updated to. -/
theorem connection_update {s : Session} (h : consumerClient < s.clients.length) (c : Connection) :
    (s.update consumerClient c).connection consumerClient = c := by
  simp only [Session.update, Session.connection, List.getElem?_set_self h, Option.getD_some]

/-- What the consumer does to its connection is all that changes in the world. -/
theorem Shows.update {w : World} {c : Connection} {executed : List String}
    (h : Shows w (c, executed)) (c' : Connection) (pulls : Nat) :
    Shows { w with session := ⟨w.session.inner.update consumerClient c', pulls⟩ } (c', executed) where
  connected := by
    show consumerClient < (w.session.inner.clients.set consumerClient c'.registration).length
    rw [List.length_set]
    exact h.connected
  connection := connection_update h.connected c'
  executed := h.executed

/-- **A rehearsal listens as its scripts say,** where nothing is made to fail. -/
theorem simulates_scripted (r : Rehearsal) (scripts : Scripts) (queue : String)
    (hfaults : r.faults = .never) (hexecutor : r.executor = scripts.executor queue) :
    Simulates Shows r.services (Services.scripted (scripts.follow queue)) := by
  obtain ⟨consumer, executor, faults, sent⟩ := r
  obtain rfl : faults = .never := hfaults
  obtain rfl : executor = scripts.executor queue := hexecutor
  constructor
  case next_delivery =>
    rintro w ⟨c, executed⟩ h
    obtain rfl : w.connection = c := h.connection
    exact ⟨rfl, h.update _ _⟩
  case acknowledge =>
    rintro receipt w ⟨c, executed⟩ h
    obtain rfl : w.connection = c := h.connection
    exact ⟨rfl, h.update _ _⟩
  case execute =>
    rintro a w ⟨c, executed⟩ ⟨hconnected, rfl, rfl⟩
    have hplay : (Services.scripted (scripts.follow queue)).executor.execute a
        (w.connection, w.executed) = _ := execute_eq_play scripts queue a w
    rw [hplay]
    exact ⟨rfl, by rw [← clients_execute scripts queue a w] at hconnected; exact hconnected,
      rfl, rfl⟩

end Rehearsal
end Remedy
