/-
# Stopping and going on

A run that was asked to stop has finished what it had begun, and has closed the service.
Another run registers again and goes on where the first one stopped: together they do
what one run does that is asked to stop when the second one is (`restart_seamless`).

The second run finds the connection as the first one left off listening, but for the close
call in between (`oneCloseMore`); that call changes no answer.
-/

import Remedy.Proofs.Consumer.Script

namespace Remedy

namespace Messaging.Connection

/-- The connection after one more close call, with its registration. -/
def oneCloseMore (c : Connection) : Connection :=
  { c with broker := { c.broker with closeCalls := c.broker.closeCalls + 1 } }

/-- One close more does not show in the next delivery, and stays. -/
theorem nextDelivery_oneCloseMore (c : Connection) :
    c.oneCloseMore.nextDelivery = (c.nextDelivery.1, c.nextDelivery.2.oneCloseMore) := by
  obtain ⟨b, _ | queue⟩ := c
  · rfl
  · simp only [nextDelivery, oneCloseMore, Broker.deliver]
    split <;> rfl

/-- One close more does not show in an acknowledgment, and stays. -/
theorem acknowledge_oneCloseMore (c : Connection) (r : Receipt) :
    c.oneCloseMore.acknowledge r = ((c.acknowledge r).1, (c.acknowledge r).2.oneCloseMore) := by
  obtain ⟨⟨queues, delivered, unacknowledged, acknowledged, refuses, closeCalls⟩, queue⟩ := c
  simp only [acknowledge, oneCloseMore, Broker.acknowledge_eq]
  cases r.tag? with
  | none => rfl
  | some tag =>
    cases refuses
    · by_cases ht : unacknowledged.contains tag = true <;>
        simp only [ht, if_true, if_false, Bool.false_eq_true]
    · rfl

/-- One close more does not show where something is sent, and stays. -/
theorem send_oneCloseMore (c : Connection) (queue : String) (payload : Payload)
    (redelivered : Bool) : c.oneCloseMore.send queue payload redelivered =
      ((c.send queue payload redelivered).1,
        (c.send queue payload redelivered).2.oneCloseMore) := by
  rw [send_eq, send_eq, oneCloseMore]
  cases c.broker.queues.get? queue <;> rfl

end Messaging.Connection

namespace Consumer

open Messaging (Connection)
open Work

variable {τ : Type} {c : Consumer} {scripts : Command.Action → τ → Script τ}

/-- Scripts do not notice that there has been one more close call. -/
theorem outlasts_oneCloseMore : Outlasts (fun _ => True) fun c c' => c = c'.oneCloseMore where
  send := by
    rintro queue payload redelivered _ c rfl
    rw [Connection.send_oneCloseMore]
    exact ⟨rfl, rfl⟩
  refusing := by
    rintro refuse _ c - rfl
    rfl

/-- **Nor do consumers.** -/
theorem simulates_oneCloseMore (scripts : Command.Action → τ → Script τ) :
    Simulates (Joined fun c c' => c = c'.oneCloseMore) (.scripted scripts) (.scripted scripts) :=
  outlasts_oneCloseMore.simulates (fun a v => (scripts a v).sets_true)
    (by
      rintro _ c rfl
      rw [Connection.nextDelivery_oneCloseMore]
      exact ⟨rfl, rfl⟩)
    (by
      rintro receipt _ c rfl
      rw [Connection.acknowledge_oneCloseMore]
      exact ⟨rfl, rfl⟩)

/-! ### Going on -/

section
variable {s : State (Connection × τ)} {m : Nat}

/-- **Consuming that is asked to stop has taken all its turns,** and is still registered
then for a queue that is declared. -/
theorem exists_turns_of_consumed
    (h : ((c.consume (.scripted scripts) m).done s).answer = .ok ()) :
    (Services.scripted scripts).messaging.startConsuming c.queue s.world =
        (.ok (), c.registered s.world) ∧
      ∃ t trace, (c.turns (.scripted scripts) m).done { s with world := c.registered s.world } =
          ⟨.ok (), t, trace⟩ ∧
        t.world.1.registration = some c.queue ∧
        (t.world.1.broker.queues.get? c.queue).isSome := by
  have hstart := startConsuming_scripted c scripts s.world
  by_cases hq : (s.world.1.broker.queues.get? c.queue).isSome
  · rw [if_pos hq] at hstart
    rw [done_consume_of_registered hstart] at h
    obtain ⟨t, trace, ht⟩ := exists_done_turns_of_ok h
    have hlater := (preserves_later scripts (c.registered s.world).1).turns c m
      (s := { s with world := c.registered s.world }) (.refl _)
    rw [ht] at hlater
    exact ⟨hstart, t, trace, ht, hlater.registration, hlater.declared c.queue hq⟩
  · rw [if_neg hq] at hstart
    rw [done_consume_of_unregistered hstart] at h
    cases h

end

/-- **Whether two runs have done what one run did,** but for a close call. -/
structure Seamless (first second whole : Done (Connection × τ) Unit) : Prop where
  answer : second.answer = whole.answer
  executions : first.trace.executions ++ second.trace.executions = whole.trace.executions
  connection : second.after.world.1 = whole.after.world.1.oneCloseMore
  /-- The executor is in the same state. -/
  executor : second.after.world.2 = whole.after.world.2
  stats : second.after.stats = whole.after.stats
  phase : second.after.phase = whole.after.phase

/-- How many looks two runs have, one after the other. -/
def looksOfBoth (a b : Option Nat) : Option Nat := a.bind fun m => b.map (m + ·)

section
variable {s : State (Connection × τ)} {m : Nat} {a b : Option Nat}
  {first second whole : Done (Connection × τ) Unit}

/-- **Another run goes on where the first one stopped.** -/
theorem seamless_run (h : ((c.run (.scripted scripts) m).done s).answer = .ok ()) (n : Nat) :
    let first := (c.run (.scripted scripts) m).done s
    Seamless first ((c.run (.scripted scripts) n).done first.after)
      ((c.run (.scripted scripts) (m + n)).done s) := by
  rw [answer_run_scripted] at h
  obtain ⟨hstart, t, trace, ht, hregistration, hdeclared⟩ := exists_turns_of_consumed h
  -- the first run stops listening in `t`, and the whole run listens on from there
  have hstop : (c.listen (.scripted scripts) m).done _ = _ := done_listen_add_of_ok ht 0
  obtain ⟨trace₁, hfirst, hexecutions₁⟩ := done_run_of_registered m hstart
  obtain ⟨trace₃, hwhole, hexecutions₃⟩ := done_run_of_registered (m + n) hstart
  rw [hstop] at hfirst hexecutions₁
  rw [done_listen_add_of_ok ht n] at hwhole hexecutions₃
  -- the second run listens from there, too, but for the close call
  let u : State (Connection × τ) := ⟨closed t.world, .terminated, t.stats⟩
  have hrestart : (Services.scripted scripts).messaging.startConsuming c.queue u.world =
      (.ok (), c.registered u.world) := by
    rw [startConsuming_scripted]
    exact if_pos hdeclared
  obtain ⟨trace₂, hsecond, hexecutions₂⟩ := done_run_of_registered n hrestart
  have hconnection : (c.registered u.world).1 = t.world.1.oneCloseMore := by
    show (⟨u.world.1.broker, some c.queue⟩ : Connection) = _
    rw [← hregistration]
    rfl
  have halike := (simulates_oneCloseMore scripts).listen (c := c) n
    ⟨c.registered u.world, .terminated, t.stats⟩ t ⟨hconnection, rfl⟩ rfl
  have hworld := halike.world
  intro first
  have hafter : first.after = u := by rw [show first = _ from hfirst]; rfl
  rw [hafter, hsecond, hwhole]
  refine ⟨halike.answer, ?_, congrArg (fun c => c.close.2) hworld.1, hworld.2, halike.stats, rfl⟩
  have hstopped : trace₁.executions = trace.executions := by
    rw [hexecutions₁, done_listen_zero]
    simp
  rw [show first = _ from hfirst]
  show trace₁.executions ++ trace₂.executions = trace₃.executions
  rw [hstopped, hexecutions₂, hexecutions₃, halike.executions, Done.trace_precede,
    Trace.executions_append]

/-- **Stopping and restarting is seamless.**  If a run ends well that may be asked to stop,
then the next run is over just if one run with the looks of both is, and the two have done
what that one does; the broker has only seen one close call more. -/
theorem restart_seamless (hfirst : c.Ends (.scripted scripts) a s first)
    (hok : first.answer = .ok ()) :
    ((∃ second, c.Ends (.scripted scripts) b first.after second) ↔
        ∃ whole, c.Ends (.scripted scripts) (looksOfBoth a b) s whole) ∧
      ∀ second whole, c.Ends (.scripted scripts) b first.after second →
        c.Ends (.scripted scripts) (looksOfBoth a b) s whole → Seamless first second whole := by
  obtain ⟨m, rfl, hm⟩ := ends_scripted_iff.1 hfirst
  obtain rfl : a = some m := hm.resolve_right fun ⟨_, e, he⟩ => by rw [hok] at he; cases he
  have hrun := seamless_run hok
  -- what ends the second run after so many looks ends the whole run after the looks of both
  have hends : ∀ second, c.Ends (.scripted scripts) b
      ((c.run (.scripted scripts) m).done s).after second → ∃ n,
        second = (c.run (.scripted scripts) n).done
          ((c.run (.scripted scripts) m).done s).after ∧
        c.Ends (.scripted scripts) (looksOfBoth (some m) b) s
          ((c.run (.scripted scripts) (m + n)).done s) := by
    intro second hsecond
    obtain ⟨n, rfl, rfl | ⟨rfl, e, he⟩⟩ := ends_scripted_iff.1 hsecond
    · exact ⟨n, rfl, rfl⟩
    · exact ⟨n, rfl, ends_scripted_iff.2 ⟨m + n, rfl, .inr ⟨rfl, e, (hrun n).answer ▸ he⟩⟩⟩
  refine ⟨⟨fun ⟨second, hsecond⟩ => ?_, fun ⟨whole, hwhole⟩ => ?_⟩,
    fun second whole hsecond hwhole => ?_⟩
  · obtain ⟨n, -, h⟩ := hends second hsecond
    exact ⟨_, h⟩
  · cases b with
    | some n => exact ⟨_, rfl⟩
    | none =>
      obtain ⟨N, rfl, hN⟩ := ends_scripted_iff.1 hwhole
      obtain ⟨-, e, he⟩ := hN.resolve_left (by simp [looksOfBoth])
      -- with fewer looks the whole run would have failed before the first run was stopped
      obtain ⟨n, rfl⟩ : ∃ n, N = m + n := by
        rcases Nat.le_total m N with hle | hle
        · exact Nat.exists_eq_add_of_le hle
        · obtain ⟨k, rfl⟩ := Nat.exists_eq_add_of_le hle
          rw [answer_run_scripted] at he hok
          rw [done_consume_add_of_error he, he] at hok
          cases hok
      exact ⟨_, ends_scripted_iff.2 ⟨n, rfl, .inr ⟨rfl, e, (hrun n).answer ▸ he⟩⟩⟩
  · obtain ⟨n, rfl, h⟩ := hends second hsecond
    rw [hwhole.unique h]
    exact hrun n

end

/-- The command of the first run sends another alert, which the second run deals with; the
command for that one has acknowledgments refused, and so does the single run end. -/
theorem restart_seamless_of_alert_sent :
    let c : Consumer := ⟨⟨⟨⟨"", .empty⟩, ["a"]⟩, .standard⟩, "alerts", .afterExecution⟩
    let scripts : Command.Action → Nat → Script Nat := fun _ earlier =>
      if earlier = 0 then .send "alerts" [97] false fun _ => .answer ⟨.ok (.ofExitStatus 0 0), 1, []⟩
      else .refuseAcks true (.answer ⟨.ok (.ofExitStatus 3 0), 2, []⟩)
    let b : Messaging.Broker :=
      { Messaging.Broker.empty with queues := [("alerts", [⟨[97], false⟩])] }
    ∃ (s : State (Connection × Nat)) (first second whole : Done (Connection × Nat) Unit),
      s = .initial (⟨b, none⟩, 0) ∧ c.Ends (.scripted scripts) (some 1) s first ∧
      first.answer = .ok () ∧ c.Ends (.scripted scripts) none first.after second ∧
      second.answer = .error (.ack "alerts" 2 "channel closed") ∧
      c.Ends (.scripted scripts) none s whole ∧ Seamless first second whole := by
  intro c scripts b
  have hsecond := @unasked_iff _ c (.scripted scripts) 1
    ((c.run (.scripted scripts) 1).done (.initial (⟨b, none⟩, 0))).after
  obtain ⟨second, hsecond⟩ := hsecond.2 ⟨.ack "alerts" 2 "channel closed", by decide⟩
  have hboth := @restart_seamless Nat c scripts (.initial (⟨b, none⟩, 0)) (some 1) none
    _ rfl (by decide)
  obtain ⟨whole, hwhole⟩ := hboth.1.1 ⟨second, 1, hsecond⟩
  refine ⟨_, _, second, whole, rfl, rfl, by decide, ⟨1, hsecond⟩, ?_, hwhole,
    hboth.2 second whole ⟨1, hsecond⟩ hwhole⟩
  rw [eq_done_run_of_unasked hsecond]
  decide

end Consumer
end Remedy
