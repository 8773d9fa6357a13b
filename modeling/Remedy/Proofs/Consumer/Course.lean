/-
# The course of a run on a broker in memory

A run comes to what the rules say and to nothing else (`Ends.exists_course`,
`Course.exists_ends`): while it listens it takes one of the rules at each look, by whether
there is a message and whether its acknowledgment is refused (`listens_of_listen`), and the
rules leave it no choice (`Listens.eq_listen`).  So a run answers as the rules allow, and
what it draws is the beginning of what was in the queue and what was sent to it meanwhile
(`course_of_run`).
-/

import Remedy.Fatal
import Remedy.Proofs.Consumer.Phases
import Remedy.Proofs.Consumer.Rules

namespace Remedy

namespace Messaging

/-- A queue with messages in it is declared. -/
theorem Queues.get?_of_messages {qs : Queues} {name : String} {m : Message} {ms : List Message}
    (h : qs.messages name = m :: ms) : qs.get? name = some (m :: ms) := by
  unfold messages at h
  cases hq : qs.get? name with
  | none =>
    rw [hq] at h
    cases h
  | some _ =>
    rw [hq] at h
    exact congrArg some h

/-- An empty queue need not be declared. -/
theorem Queues.get?_of_messages_eq_nil {qs : Queues} {name : String}
    (h : qs.messages name = []) : qs.get? name = none ∨ qs.get? name = some [] := by
  unfold messages at h
  cases hq : qs.get? name with
  | none => exact .inl rfl
  | some _ =>
    rw [hq] at h
    exact .inr (congrArg some h)

/-- The receipt of the next delivery names its tag. -/
theorem Broker.tag?_handOut {b : Broker} (h : b.delivered + 1 < 2 ^ 64) (m : Message) :
    (b.handOut m).receipt.tag? = some (b.delivered + 1) := Receipt.tag?_ofTag h

/-- A broker that refuses acknowledgments answers so, and stays as it is. -/
theorem Connection.acknowledge_of_refusing {x : Connection} {queue : String} {r : Receipt}
    {tag : Nat} (hx : x.registration = some queue) (hr : r.tag? = some tag)
    (hf : x.broker.refusesAcks = true) :
    x.acknowledge r = (.error (.ack queue tag "channel closed"), x) := by
  simp only [acknowledge, Broker.acknowledge_eq, hr, hf, hx, if_true, Option.getD_some]
  rw [← hx]

end Messaging

namespace Consumer

open Messaging (Connection Delivery Message Receipt)
open Work

variable {τ : Type}

/-! ### What is done with a delivery -/

section
variable {c : Consumer} {scripts : Command.Action → τ → Script τ} {d : Delivery}
  {w : Connection × τ} {tag : Nat}

/-- What is left of the world by a decision is what the script leaves of it. -/
theorem after_decision (c : Consumer) (scripts : Command.Action → τ → Script τ) (d : Delivery)
    (w : Connection × τ) :
    (c.decision (.scripted scripts) d w).after = c.acted scripts d w := by
  unfold decision acted
  cases c.dispatcher.resolve d.payload <;> rfl

/-- **Where acknowledgments are refused,** the delivery is given up. -/
theorem done_process_of_refusing (hw : w.1.registration = some c.queue)
    (htag : d.receipt.tag? = some tag)
    (hf : (c.dealing scripts d tag w).tried.1.broker.refusesAcks = true) (p : Phase)
    (stats : Stats) :
    ∃ t trace, (c.process (.scripted scripts) d).done ⟨w, p, stats⟩ =
        ⟨.error (.ack c.queue tag "channel closed"), t, trace⟩ ∧
      t.world = (c.dealing scripts d tag w).tried := by
  have hkept := (kept_dealing c scripts d tag w).1
  have hack := acknowledge_scripted scripts (c.dealing scripts d tag w).tried.2
    (Connection.acknowledge_of_refusing (hkept.registration.trans hw) htag hf)
  unfold dealing at hack ⊢
  cases hm : c.ackMode with
  | onReceipt =>
    rw [hm] at hack
    exact ⟨_, _, done_process_of_refused_first (s := ⟨w, p, stats⟩) hm hack, rfl⟩
  | afterExecution =>
    rw [hm] at hack
    have hdecided := after_decision c scripts d w
    exact ⟨_, _, done_process_of_refused_last (s := ⟨w, p, stats⟩) hm (hdecided ▸ hack), rfl⟩

/-- **Where acknowledgments are accepted,** the delivery is dealt with. -/
theorem done_process_of_accepting (hmem : tag ∈ w.1.broker.unacknowledged)
    (htag : d.receipt.tag? = some tag)
    (hf : (c.dealing scripts d tag w).tried.1.broker.refusesAcks = false) (p : Phase)
    (stats : Stats) :
    ∃ o t trace, (c.process (.scripted scripts) d).done ⟨w, p, stats⟩ = ⟨.ok o, t, trace⟩ ∧
      t.world = (c.dealing scripts d tag w).after := by
  have hkept := (kept_dealing c scripts d tag w).1
  have hack := acknowledge_scripted scripts (c.dealing scripts d tag w).tried.2
    (Connection.acknowledge_of_mem htag hf (hkept.unacknowledged ▸ hmem))
  unfold dealing at hack ⊢
  cases hm : c.ackMode with
  | onReceipt =>
    rw [hm] at hack
    exact ⟨_, _, _, done_process_of_acknowledged_first (s := ⟨w, p, stats⟩) hm hack,
      after_decision ..⟩
  | afterExecution =>
    rw [hm] at hack
    have hdecided := after_decision c scripts d w
    exact ⟨_, _, _, done_process_of_acknowledged_last (s := ⟨w, p, stats⟩) hm (hdecided ▸ hack),
      rfl⟩

end

/-- What work comes to, apart from the log and the counts: what was drawn, what is answered and
where it leaves the world. -/
structure Done.Comes (d : Done (Connection × τ) Unit) (drawn : List Delivery)
    (r : Except Messaging.Error Unit) (w : Connection × τ) : Prop where
  drawn : d.trace.deliveries = drawn
  answer : d.answer = r
  world : d.after.world = w

/-- What comes before a part of a run adds its deliveries in front and changes nothing else. -/
theorem Done.Comes.precede {d : Done (Connection × τ) Unit} {drawn : List Delivery}
    {r : Except Messaging.Error Unit} {w : Connection × τ} {t : Trace} {first : List Delivery}
    (h : d.Comes drawn r w) (ht : t.deliveries = first) :
    (d.precede t).Comes (first ++ drawn) r w where
  drawn := by rw [Done.trace_precede, Trace.deliveries_append, ht, h.drawn]
  answer := h.answer
  world := h.world

/-! ### One look -/

/-- A loop that is asked at its first look draws nothing. -/
theorem comes_listen_zero (c : Consumer) (scripts : Command.Action → τ → Script τ)
    (s : State (Connection × τ)) :
    ((c.listen (.scripted scripts) 0).done s).Comes [] (.ok ()) s.world := by
  refine ⟨?_, rfl, rfl⟩
  rw [done_listen_zero, Trace.deliveries_append, Trace.deliveries_entering]
  rfl

section
variable {c : Consumer} {scripts : Command.Action → τ → Script τ} {s : State (Connection × τ)}
  {m : Message} {ms : List Message}

/-- A loop at an empty queue ends there. -/
theorem comes_listen_of_empty (hs : s.world.1.registration = some c.queue)
    (hq : s.world.1.messages c.queue = []) (n : Nat) :
    ((c.listen (.scripted scripts) (n + 1)).done s).Comes [] (.error (.connectionClosed c.queue))
      s.world := by
  have hnext := nextDelivery_scripted scripts s.world.2
    (Connection.nextDelivery_of_drained hs (Messaging.Queues.get?_of_messages_eq_nil hq))
  rw [done_listen_of_drained hnext]
  refine ⟨?_, rfl, rfl⟩
  rw [Trace.deliveries_append, Trace.deliveries_entering]
  rfl

/-- The delivery that is drawn next, and the world that this leaves. -/
theorem nextDelivery_of_messages (hs : s.world.1.registration = some c.queue)
    (hq : s.world.1.messages c.queue = m :: ms) :
    (Services.scripted scripts).messaging.nextDelivery s.world =
      (.ok (some (s.world.1.broker.handOut m)), c.handedOut s.world ms) :=
  nextDelivery_scripted scripts s.world.2
    (Connection.nextDelivery_of_cons hs (Messaging.Queues.get?_of_messages hq))

/-- A loop ends at the first acknowledgment that is refused. -/
theorem comes_listen_of_refusing (hs : s.world.1.registration = some c.queue)
    (hq : s.world.1.messages c.queue = m :: ms)
    (hlt : s.world.1.broker.delivered + 1 < 2 ^ 64)
    (hf : (c.firstDealing scripts s.world m ms).tried.1.broker.refusesAcks = true) (n : Nat) :
    ((c.listen (.scripted scripts) (n + 1)).done s).Comes [s.world.1.broker.handOut m]
      (.error (.ack c.queue (s.world.1.broker.delivered + 1) "channel closed"))
      (c.firstDealing scripts s.world m ms).tried := by
  obtain ⟨t, trace, hdone, hworld⟩ := done_process_of_refusing (w := c.handedOut s.world ms) hs
    (Messaging.Broker.tag?_handOut hlt m) hf .processing s.stats
  rw [done_listen_of_refused (nextDelivery_of_messages hs hq) hdone]
  exact ⟨(round_process hdone _).deliveries, rfl, hworld⟩

/-- After an acknowledgment that is accepted the loop goes on from the world that the dealing
left. -/
theorem done_listen_of_accepting (hs : s.world.1.registration = some c.queue)
    (hq : s.world.1.messages c.queue = m :: ms)
    (hlt : s.world.1.broker.delivered + 1 < 2 ^ 64)
    (hf : (c.firstDealing scripts s.world m ms).tried.1.broker.refusesAcks = false) (n : Nat) :
    ∃ t trace, (c.listen (.scripted scripts) (n + 1)).done s =
        ((c.listen (.scripted scripts) n).done t).precede trace ∧
      t.world = (c.firstDealing scripts s.world m ms).after ∧
      trace.deliveries = [s.world.1.broker.handOut m] := by
  obtain ⟨o, t, trace, hdone, hworld⟩ := done_process_of_accepting (w := c.handedOut s.world ms)
    (List.mem_append_right _ (List.mem_singleton_self _)) (Messaging.Broker.tag?_handOut hlt m) hf
    .processing s.stats
  exact ⟨_, _, done_listen_of_handled (nextDelivery_of_messages hs hq) hdone, hworld,
    (round_process hdone _).deliveries⟩

end

/-! ### Listening -/

section
variable {c : Consumer} {scripts : Command.Action → τ → Script τ} {looks : Option Nat}
  {w w' : Connection × τ} {drawn : List Delivery} {sent : List Message}
  {r : Except Messaging.Error Unit}

/-- **Listening has a course,** as long as the tags have 64 bits. -/
theorem listens_of_listen (n : Nat) :
    ∀ s : State (Connection × τ), s.world.1.registration = some c.queue →
      ((c.listen (.scripted scripts) n).done s).delivered < 2 ^ 64 →
      ∃ drawn sent r w, Listens c scripts (some n) s.world drawn sent r w ∧
        ((c.listen (.scripted scripts) n).done s).Comes drawn r w := by
  induction n with
  | zero =>
    intro s _ _
    exact ⟨_, _, _, _, .asked s.world, comes_listen_zero c scripts s⟩
  | succ n ih =>
    intro s hs hfew
    have hlook : some (n + 1) ≠ some 0 := by simp
    cases hq : s.world.1.messages c.queue with
    | nil =>
      exact ⟨_, _, _, _, .drained hlook hq, comes_listen_of_empty hs hq n⟩
    | cons m ms =>
      -- the tag that is handed out is among those that have 64 bits
      have hlater := (preserves_later scripts (c.handedOut s.world ms).1).listen_of_pulled c n
        (nextDelivery_of_messages hs hq) (.refl _)
      have hlt : s.world.1.broker.delivered + 1 < 2 ^ 64 :=
        Nat.lt_of_le_of_lt hlater.delivered hfew
      cases hf : (c.firstDealing scripts s.world m ms).tried.1.broker.refusesAcks with
      | true =>
        exact ⟨_, _, _, _, .refused hlook hq hf, comes_listen_of_refusing hs hq hlt hf n⟩
      | false =>
        obtain ⟨t, trace, hdone, hworld, hdrawn⟩ := done_listen_of_accepting hs hq hlt hf n
        have ht : t.world.1.registration = some c.queue := by
          rw [hworld, (kept_firstDealing ..).2.1, hs]
        rw [hdone] at hfew ⊢
        obtain ⟨drawn, sent, r, w, hrest, hcomes⟩ := ih t ht hfew
        rw [hworld] at hrest
        exact ⟨_, _, _, _, .handled hlook hq hf hrest, hcomes.precede hdrawn⟩

/-- **There are no other courses** than the one that listening has. -/
theorem Listens.eq_listen (h : Listens c scripts looks w drawn sent r w') :
    ∀ (n : Nat) (s : State (Connection × τ)), looks = some n → s.world = w →
      w.1.registration = some c.queue → w'.1.broker.delivered < 2 ^ 64 →
      ((c.listen (.scripted scripts) n).done s).Comes drawn r w' := by
  induction h with
  | asked w =>
    rintro n s hn rfl _ _
    obtain rfl : n = 0 := (Option.some.inj hn).symm
    exact comes_listen_zero c scripts s
  | drained hlook hq =>
    rintro n s rfl rfl hs _
    obtain ⟨n, rfl⟩ := Nat.exists_eq_succ_of_ne_zero fun h => hlook (congrArg some h)
    exact comes_listen_of_empty hs hq n
  | refused hlook hq hf =>
    rintro n s rfl rfl hs hfew
    obtain ⟨n, rfl⟩ := Nat.exists_eq_succ_of_ne_zero fun h => hlook (congrArg some h)
    have hlt := (kept_firstDealing ..).1 ▸ hfew
    exact comes_listen_of_refusing hs hq hlt hf n
  | handled hlook hq hf hrest ih =>
    rintro n s rfl rfl hs hfew
    obtain ⟨n, rfl⟩ := Nat.exists_eq_succ_of_ne_zero fun h => hlook (congrArg some h)
    have hlt : s.world.1.broker.delivered + 1 < 2 ^ 64 := by
      have hcount := hrest.delivered
      rw [(kept_firstDealing ..).2.2] at hcount
      omega
    obtain ⟨t, trace, hdone, hworld, hdrawn⟩ := done_listen_of_accepting hs hq hlt hf n
    rw [hdone]
    exact (ih n t rfl hworld ((kept_firstDealing ..).2.1.trans hs) hfew).precede hdrawn

end

/-! ### Runs -/

section
variable {c : Consumer} {scripts : Command.Action → τ → Script τ} {looks : Option Nat}
  {s : State (Connection × τ)} {w w' : Connection × τ} {drawn : List Delivery}
  {sent : List Message} {r : Except Messaging.Error Unit} {n : Nat}

/-- Closing changes neither the answer nor the messages. -/
theorem Done.Comes.run (h : ((c.consume (.scripted scripts) n).done s).Comes drawn r w) :
    ((c.run (.scripted scripts) n).done s).Comes drawn r (closed w) where
  drawn := by rw [deliveries_run, h.drawn]
  answer := by rw [answer_run_scripted, h.answer]
  world := by
    obtain ⟨trace, hrun, -⟩ := done_run_scripted c scripts n s
    rw [hrun, h.world]

/-- A queue that is not declared is not consumed from. -/
theorem comes_consume_of_undeclared (hq : s.world.1.broker.queues.get? c.queue = none) (n : Nat) :
    ((c.consume (.scripted scripts) n).done s).Comes [] (.error (.queueNotFound c.queue))
      s.world := by
  have hstart := startConsuming_scripted c scripts s.world
  rw [hq] at hstart
  rw [done_consume_of_unregistered hstart]
  exact ⟨rfl, rfl, rfl⟩

/-- Registering at a declared queue changes the registration only, and consuming is the loop after
it. -/
theorem comes_consume_of_declared (hq : (s.world.1.broker.queues.get? c.queue).isSome)
    (h : ((c.listen (.scripted scripts) n).done { s with world := c.registered s.world }).Comes
      drawn r w) :
    ((c.consume (.scripted scripts) n).done s).Comes drawn r w := by
  have hstart := (startConsuming_scripted c scripts s.world).trans (if_pos hq)
  rw [done_consume_of_registered hstart]
  exact h.precede rfl

/-- **A run has a course,** as long as the tags have 64 bits. -/
theorem course_run (n : Nat) (s : State (Connection × τ))
    (hfew : ((c.run (.scripted scripts) n).done s).delivered < 2 ^ 64) :
    ∃ drawn sent r w, Course c scripts (some n) s.world drawn sent r w ∧
      ((c.run (.scripted scripts) n).done s).Comes drawn r w := by
  cases hq : s.world.1.broker.queues.get? c.queue with
  | none => exact ⟨_, _, _, _, .undeclared hq, (comes_consume_of_undeclared hq n).run⟩
  | some ms =>
    have hsome : (s.world.1.broker.queues.get? c.queue).isSome := by rw [hq]; rfl
    have hstart := (startConsuming_scripted c scripts s.world).trans (if_pos hsome)
    obtain ⟨trace, hrun, -⟩ := done_run_of_registered n hstart
    rw [hrun] at hfew
    obtain ⟨drawn, sent, r, w, hlistens, hcomes⟩ := listens_of_listen n _ rfl hfew
    exact ⟨_, _, _, _, .registered hsome hlistens, (comes_consume_of_declared hsome hcomes).run⟩

/-- **A run has no other course.** -/
theorem Course.comes_run (h : Course c scripts (some n) s.world drawn sent r w)
    (hfew : w.1.broker.delivered < 2 ^ 64) :
    ((c.run (.scripted scripts) n).done s).Comes drawn r w := by
  cases h with
  | undeclared hq => exact (comes_consume_of_undeclared hq n).run
  | registered hq hlistens =>
    exact (comes_consume_of_declared hq (hlistens.eq_listen n _ rfl rfl rfl hfew)).run

/-- Where a run is over, it has a course. -/
theorem Ends.exists_course {d : Done (Connection × τ) Unit}
    (h : c.Ends (.scripted scripts) looks s d) (hfew : d.delivered < 2 ^ 64) :
    ∃ sent, Course c scripts looks s.world d.trace.deliveries sent d.answer d.after.world := by
  obtain ⟨n, rfl, hlooks⟩ := ends_scripted_iff.1 h
  obtain ⟨_, sent, _, _, hcourse, rfl, rfl, rfl⟩ := course_run n s hfew
  rcases hlooks with rfl | ⟨rfl, he⟩
  · exact ⟨sent, hcourse⟩
  · exact ⟨sent, hcourse.not_asked he⟩

/-- Where there is a course, the run is over. -/
theorem Course.exists_ends (h : Course c scripts looks s.world drawn sent r w)
    (hfew : w.1.broker.delivered < 2 ^ 64) :
    ∃ d, c.Ends (.scripted scripts) looks s d ∧ d.Comes drawn r w := by
  cases looks with
  | some n => exact ⟨_, rfl, h.comes_run hfew⟩
  | none =>
    obtain ⟨n, hlate, e, rfl⟩ := h.asked_late
    have hcomes := hlate.comes_run hfew
    exact ⟨_, ends_scripted_iff.2 ⟨n, rfl, .inr ⟨rfl, e, hcomes.answer⟩⟩, hcomes⟩

/-- All that is called where the queue is not declared: the registration, and the close. -/
theorem calls_run_of_undeclared (hq : s.world.1.broker.queues.get? c.queue = none) (n : Nat) :
    ((c.run (.scripted scripts) n).done s).trace.calls =
      [.startedConsuming c.queue (.error (.queueNotFound c.queue)), .closed (.ok ())] := by
  have hstart := startConsuming_scripted c scripts s.world
  rw [hq] at hstart
  have hclose : (Services.scripted scripts).messaging.close s.world = (.ok (), closed s.world) :=
    rfl
  rw [done_run, done_consume_of_unregistered hstart, done_finish_of_closed hclose,
    Done.trace_precede, Trace.calls_append, Trace.calls_append, Trace.calls_entering]
  rfl

/-- Without a queue a run does not depend on when it is asked to shut down. -/
theorem ends_of_undeclared (hq : s.world.1.broker.queues.get? c.queue = none) (n : Nat)
    (looks : Option Nat) :
    c.Ends (.scripted scripts) looks s ((c.run (.scripted scripts) n).done s) := by
  have hstart := startConsuming_scripted c scripts s.world
  rw [hq] at hstart
  cases looks with
  | some m =>
    show _ = (c.run (.scripted scripts) m).done s
    rw [done_run, done_run, done_consume_of_unregistered hstart, done_consume_of_unregistered hstart]
  | none =>
    exact ends_scripted_iff.2
      ⟨n, rfl, .inr ⟨rfl, _, (comes_consume_of_undeclared hq n).run.answer⟩⟩

end

/-- **What a run may answer** on a broker in memory. -/
structure Answers (c : Consumer) (scripts : Command.Action → τ → Script τ) (looks : Option Nat)
    (s : State (Connection × τ)) (d : Done (Connection × τ) Unit) : Prop where
  not_found : d.answer = .error (.queueNotFound c.queue) ↔
    s.world.1.broker.queues.get? c.queue = none
  /-- Without a queue nothing is drawn, and nobody looks whether to shut down. -/
  undeclared : s.world.1.broker.queues.get? c.queue = none → d.trace.calls =
      [.startedConsuming c.queue (.error (.queueNotFound c.queue)), .closed (.ok ())] ∧
    ∀ looks, c.Ends (.scripted scripts) looks s d
  /-- With one it is asked to stop, or finds the queue empty, or cannot acknowledge the last
  delivery. -/
  declared : (s.world.1.broker.queues.get? c.queue).isSome →
    (d.answer = .ok () ∧ looks = some d.trace.deliveries.length) ∨
      (d.answer = .error (.connectionClosed c.queue) ∧
        d.after.world.1.messages c.queue = []) ∨
      ∃ tag, d.answer = .error (.ack c.queue tag "channel closed") ∧
        d.trace.deliveries.getLast?.map Delivery.receipt = some (.ofTag tag) ∧
        d.after.world.1.broker.refusesAcks = true
  /-- The connection counts as lost, whatever the failure. -/
  loses_connection : ∀ e, d.answer = .error e → (Fatal.messaging e).isConnectionFailure = true
  /-- What is drawn is the beginning of what was there and what was sent meanwhile; the rest
  is still there. -/
  in_order : ∃ sent, Course c scripts looks s.world d.trace.deliveries sent d.answer d.after.world ∧
    d.trace.deliveries.map Delivery.message ++ d.after.world.1.messages c.queue =
      s.world.1.messages c.queue ++ sent

section
variable {c : Consumer} {scripts : Command.Action → τ → Script τ} {looks : Option Nat}
  {s : State (Connection × τ)} {d : Done (Connection × τ) Unit}

/-- **What a run answers,** from the course that it takes. -/
theorem Ends.answers (h : c.Ends (.scripted scripts) looks s d) (hfew : d.delivered < 2 ^ 64) :
    Answers c scripts looks s d := by
  obtain ⟨sent, hcourse⟩ := h.exists_course hfew
  have hin_order := hcourse.conserves
  cases hq : s.world.1.broker.queues.get? c.queue with
  | none =>
    have hanswer := hcourse.answer_of_undeclared hq
    refine
      { not_found := ⟨fun _ => hq, fun _ => hanswer⟩
        undeclared := fun _ => ?undeclared
        declared := fun hsome => by rw [hq] at hsome; cases hsome
        loses_connection := fun e he => ?loses
        in_order := ⟨sent, hcourse, hin_order⟩ }
    case undeclared =>
      obtain ⟨n, rfl⟩ := h.exists_run
      exact ⟨calls_run_of_undeclared hq n, ends_of_undeclared hq n⟩
    case loses =>
      rw [hanswer] at he
      cases he
      rfl
  | some ms =>
    have hsome : (s.world.1.broker.queues.get? c.queue).isSome := by rw [hq]; rfl
    have hcases := hcourse.answer_cases hsome
    refine
      { not_found := ⟨fun he => ?not_found, fun hnone => by rw [hq] at hnone; cases hnone⟩
        undeclared := fun hnone => by rw [hq] at hnone; cases hnone
        declared := fun _ => hcases
        loses_connection := fun e he => ?loses
        in_order := ⟨sent, hcourse, hin_order⟩ }
    case not_found =>
      rcases hcases with ⟨hr, -⟩ | ⟨hr, -⟩ | ⟨tag, hr, -⟩ <;> rw [hr] at he <;> cases he
    case loses =>
      rcases hcases with ⟨hr, -⟩ | ⟨hr, -⟩ | ⟨tag, hr, -⟩ <;> rw [hr] at he <;> cases he <;> rfl

end

/-- **The course of a run** on a broker in memory, by an executor that sends messages and has
acknowledgments refused or accepted, in both modes and whenever it is asked to stop.  As
long as the tags have 64 bits, a run comes to what the rules say and to nothing else, and so
it answers as they allow. -/
theorem course_of_run (c : Consumer) (scripts : Command.Action → τ → Script τ)
    (looks : Option Nat) (s : State (Connection × τ)) :
    (∀ drawn r w, w.1.broker.delivered < 2 ^ 64 →
      ((∃ d, c.Ends (.scripted scripts) looks s d ∧ d.Comes drawn r w) ↔
        ∃ sent, Course c scripts looks s.world drawn sent r w)) ∧
    ∀ d, c.Ends (.scripted scripts) looks s d → d.delivered < 2 ^ 64 →
      Answers c scripts looks s d := by
  refine ⟨fun drawn r w hfew => ⟨?_, fun ⟨sent, h⟩ => h.exists_ends hfew⟩,
    fun d h hfew => h.answers hfew⟩
  rintro ⟨d, hd, rfl, rfl, rfl⟩
  exact hd.exists_course hfew

/-- The command for the first alert sends another one, and has acknowledgments refused. -/
theorem course_of_run_of_refusal :
    let c : Consumer := ⟨⟨⟨⟨"", .empty⟩, ["a"]⟩, .standard⟩, "alerts", .afterExecution⟩
    let scripts : Command.Action → Nat → Script Nat := fun _ _ =>
      .send "alerts" [98] false fun _ => .refuseAcks true (.answer ⟨.ok (.ofExitStatus 0 0), 1, []⟩)
    let b : Messaging.Broker :=
      { Messaging.Broker.empty with queues := [("alerts", [⟨[97], false⟩])] }
    ∃ d, c.Ends (.scripted scripts) (some 3) (.initial (⟨b, none⟩, 0)) d ∧
      d.answer = .error (.ack "alerts" 1 "channel closed") ∧
      d.trace.deliveries = [⟨.ofTag 1, [97], false⟩] ∧
      d.after.world.1.messages "alerts" = [⟨[98], false⟩] ∧
      Answers c scripts (some 3) (.initial (⟨b, none⟩, 0)) d ∧
      ∃ sent, Course c scripts (some 3) (⟨b, none⟩, 0) d.trace.deliveries sent d.answer
        d.after.world := by
  intro c scripts b
  have hends : c.Ends (.scripted scripts) (some 3) (.initial (⟨b, none⟩, 0))
      ((c.run (.scripted scripts) 3).done (.initial (⟨b, none⟩, 0))) := rfl
  have hfew : ((c.run (.scripted scripts) 3).done (.initial (⟨b, none⟩, 0))).delivered < 2 ^ 64 := by
    decide
  obtain ⟨hcourse, hanswers⟩ := course_of_run c scripts (some 3) (.initial (⟨b, none⟩, 0))
  exact ⟨_, hends, by decide, by decide, by decide, hanswers _ hends hfew,
    (hcourse _ _ _ hfew).1 ⟨_, hends, rfl, rfl, rfl⟩⟩

end Consumer
end Remedy
