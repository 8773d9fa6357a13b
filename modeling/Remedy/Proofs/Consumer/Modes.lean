/-
# Neither the mode nor the marks matter

As long as acknowledgments are accepted it does not matter whether a delivery is
acknowledged before the command for it is run or afterwards.  A command may send messages,
and that and an acknowledgment change different parts of the broker (`outlasts_settled`);
so either order comes to the same (`done_process_settled`).  Nor does it matter which
messages are marked as redelivered: the marks are told in the log, and nothing is decided
by them.

Runs in two modes, on brokers that differ in their marks only, thus agree (`modes_agree`).
-/

import Remedy.Proofs.Consumer.Script

namespace Remedy

namespace Messaging

/-- Whether two brokers differ in nothing but the marks of their messages as redelivered. -/
structure Broker.SameButMarks (b b' : Broker) : Prop where
  payloads : ∀ queue, (b.queues.get? queue).map (List.map Message.payload) =
    (b'.queues.get? queue).map (List.map Message.payload)
  delivered : b.delivered = b'.delivered
  unacknowledged : b.unacknowledged = b'.unacknowledged
  acknowledged : b.acknowledged = b'.acknowledged
  refusesAcks : b.refusesAcks = b'.refusesAcks
  closeCalls : b.closeCalls = b'.closeCalls

namespace Broker.SameButMarks

variable {b b' : Broker} {ms ms' : List Message}

/-- Being the same but for marks goes both ways. -/
theorem symm (h : b.SameButMarks b') : b'.SameButMarks b :=
  ⟨fun queue => (h.payloads queue).symm, h.delivered.symm, h.unacknowledged.symm,
    h.acknowledged.symm, h.refusesAcks.symm, h.closeCalls.symm⟩

/-- A queue is declared in both or in none, and then it holds the same payloads. -/
theorem get?_cases (h : b.SameButMarks b') (queue : String) :
    (b.queues.get? queue = none ∧ b'.queues.get? queue = none) ∨
      ∃ ms ms', b.queues.get? queue = some ms ∧ b'.queues.get? queue = some ms' ∧
        ms.map Message.payload = ms'.map Message.payload := by
  have hp := h.payloads queue
  cases hq : b.queues.get? queue <;> cases hq' : b'.queues.get? queue <;> rw [hq, hq'] at hp
  · exact .inl ⟨rfl, rfl⟩
  · cases hp
  · cases hp
  · exact .inr ⟨_, _, rfl, rfl, Option.some.inj hp⟩

/-- Marks do not bear on which queues are declared. -/
theorem isSome_get? (h : b.SameButMarks b') (queue : String) :
    (b.queues.get? queue).isSome = (b'.queues.get? queue).isSome := by
  obtain ⟨hq, hq'⟩ | ⟨_, _, hq, hq', -⟩ := h.get?_cases queue
  · rw [hq, hq']
  · rw [hq, hq']
    rfl

/-- They stay the same when the messages of a queue are replaced in both. -/
theorem set (h : b.SameButMarks b') (queue : String)
    (hms : ms.map Message.payload = ms'.map Message.payload) :
    SameButMarks { b with queues := b.queues.set queue ms }
      { b' with queues := b'.queues.set queue ms' } :=
  { h with
    payloads := fun name => by
      by_cases hne : name = queue
      · rw [hne, Queues.get?_set_self, Queues.get?_set_self]
        exact congrArg some hms
      · rw [Queues.get?_set_of_ne hne, Queues.get?_set_of_ne hne]
        exact h.payloads name }

/-- A close leaves two brokers the same but for marks. -/
theorem close (h : b.SameButMarks b') :
    SameButMarks { b with closeCalls := b.closeCalls + 1 }
      { b' with closeCalls := b'.closeCalls + 1 } :=
  { h with closeCalls := congrArg (· + 1) h.closeCalls }

end Broker.SameButMarks

end Messaging

namespace Consumer

open Messaging (Broker Connection Delivery Message Receipt)
open Work

variable {τ : Type}

/-- Whether two connections, to brokers that accept acknowledgments, are registered for one
queue and differ in marks only. -/
structure Twins (queue : String) (c c' : Connection) : Prop where
  broker : c.broker.SameButMarks c'.broker
  accepts : c.broker.refusesAcks = false
  registration : c.registration = some queue
  registration' : c'.registration = some queue

namespace Twins

variable {queue : String} {c c' : Connection}

/-- **From twins the same payloads are drawn,** in deliveries with the same receipts. -/
theorem nextDelivery_cases (h : Twins queue c c') :
    (c.nextDelivery = (.ok none, c) ∧ c'.nextDelivery = (.ok none, c')) ∨
      ∃ m m' ms ms', c.nextDelivery = (.ok (some (c.broker.handOut m)), c.handedOut queue ms) ∧
        c'.nextDelivery = (.ok (some (c'.broker.handOut m')), c'.handedOut queue ms') ∧
        m.payload = m'.payload ∧ Twins queue (c.handedOut queue ms) (c'.handedOut queue ms') := by
  obtain ⟨hq, hq'⟩ | ⟨_ | ⟨m, ms⟩, _ | ⟨m', ms'⟩, hq, hq', hms⟩ := h.broker.get?_cases queue
  · exact .inl ⟨Connection.nextDelivery_of_drained h.registration (.inl hq),
      Connection.nextDelivery_of_drained h.registration' (.inl hq')⟩
  · exact .inl ⟨Connection.nextDelivery_of_drained h.registration (.inr hq),
      Connection.nextDelivery_of_drained h.registration' (.inr hq')⟩
  · cases hms
  · cases hms
  · obtain ⟨hm, hrest⟩ := List.cons.inj hms
    refine .inr ⟨m, m', ms, ms', Connection.nextDelivery_of_cons h.registration hq,
      Connection.nextDelivery_of_cons h.registration' hq', hm, ?_, h.accepts, h.registration,
      h.registration'⟩
    have hset := h.broker.set queue hrest
    exact ⟨hset.payloads, congrArg (· + 1) h.broker.delivered, by
      simp only [Connection.handedOut, h.broker.unacknowledged, h.broker.delivered],
      hset.acknowledged, hset.refusesAcks, hset.closeCalls⟩

/-- Twins stay so when the same delivery is settled for both. -/
theorem settled (h : Twins queue c c') (tag : Nat) (r : Receipt) :
    Twins queue (c.settled tag r) (c'.settled tag r) where
  broker := { h.broker with
    unacknowledged := congrArg (List.filter (· ≠ tag)) h.broker.unacknowledged
    acknowledged := congrArg (· ++ [r]) h.broker.acknowledged }
  accepts := h.accepts
  registration := h.registration
  registration' := h.registration'

/-- **Twins stay twins,** whatever scripts do that do not have acknowledgments refused. -/
theorem outlasts (queue : String) : Outlasts (· = false) (Twins queue) where
  send := by
    intro name payload redelivered c c' h
    rw [Connection.send_eq, Connection.send_eq]
    obtain ⟨hq, hq'⟩ | ⟨ms, ms', hq, hq', hms⟩ := h.broker.get?_cases name <;> rw [hq, hq']
    · exact ⟨rfl, h⟩
    · refine ⟨rfl, h.broker.set name ?_, h.accepts, h.registration, h.registration'⟩
      rw [List.map_append, List.map_append, hms]
  refusing := by
    rintro _ c c' rfl h
    exact ⟨{ h.broker with refusesAcks := rfl }, rfl, h.registration, h.registration'⟩

end Twins

/-! ### Before or afterwards -/

/-- Whether one connection is another one, which accepts acknowledgments, after the delivery
with a tag has been acknowledged. -/
structure Settles (tag : Nat) (r : Receipt) (c c' : Connection) : Prop where
  accepts : c.broker.refusesAcks = false
  unacknowledged : tag ∈ c.broker.unacknowledged
  eq : c' = c.settled tag r

/-- **An acknowledgment does not care what has been sent,** nor the other way round. -/
theorem outlasts_settled (tag : Nat) (r : Receipt) :
    Outlasts (· = false) (Settles tag r) where
  send := by
    rintro queue payload redelivered c _ ⟨hf, ht, rfl⟩
    rw [Connection.send_eq, Connection.send_eq, Connection.settled]
    cases c.broker.queues.get? queue with
    | none => exact ⟨rfl, hf, ht, rfl⟩
    | some ms => exact ⟨rfl, hf, ht, rfl⟩
  refusing := by
    rintro _ c _ rfl ⟨hf, ht, rfl⟩
    exact ⟨rfl, ht, rfl⟩

/-- The consumer with another mode. -/
def inMode (c : Consumer) (mode : Config.AckMode) : Consumer := { c with ackMode := mode }

/-- What is decided does not depend on the mode. -/
theorem decision_inMode {σ : Type} (c : Consumer) (mode : Config.AckMode) (use : Services σ) :
    (c.inMode mode).decision use = c.decision use := rfl

section
variable {scripts : Command.Action → τ → Script τ}

/-- **In either mode a delivery is dealt with as if it had been acknowledged first.** -/
theorem done_process_settled (hscripts : ∀ a v, (scripts a v).Sets (· = false)) (c : Consumer)
    (mode : Config.AckMode) {d : Delivery} {tag : Nat} {x : Connection} (v : τ) (p : Phase)
    (stats : Stats) (hd : d.receipt.tag? = some tag) (hf : x.broker.refusesAcks = false)
    (ht : tag ∈ x.broker.unacknowledged) :
    let y := c.decision (.scripted scripts) d (x.settled tag d.receipt, v)
    ∃ trace, ((c.inMode mode).process (.scripted scripts) d).done ⟨(x, v), p, stats⟩ =
        ⟨.ok y.outcome, ⟨y.after, p, stats.receive.acknowledge.record y.outcome⟩, trace⟩ ∧
      trace.executions = y.trace.executions := by
  intro y
  cases mode with
  | onReceipt =>
    have hack := acknowledge_scripted scripts v (Connection.acknowledge_of_mem hd hf ht)
    have h := done_process_of_acknowledged_first (c := c.inMode .onReceipt)
      (s := ⟨(x, v), p, stats⟩) rfl hack
    exact ⟨_, h, by simp [y, decision_inMode]⟩
  | afterExecution =>
    -- the decision before the acknowledgment, beside the one after it
    obtain ⟨houtcome, ⟨⟨hf', ht', hafter⟩, hstate⟩, hexecutions⟩ :=
      (outlasts_settled tag d.receipt).decision_alike hscripts c (d := d) rfl ⟨hf, ht, rfl⟩ v
    have hack := acknowledge_scripted scripts (c.decision (.scripted scripts) d (x, v)).after.2
      (Connection.acknowledge_of_mem hd hf' ht')
    have h := done_process_of_acknowledged_last (c := c.inMode .afterExecution)
      (s := ⟨(x, v), p, stats⟩) rfl hack
    simp only [decision_inMode, ← hafter, hstate, houtcome, Stats.acknowledge_record] at h
    refine ⟨_, h, ?_⟩
    rw [← hexecutions]
    simp

/-- **A delivery is dealt with alike in both modes,** for twins and whatever its mark. -/
theorem alike_process (hscripts : ∀ a v, (scripts a v).Sets (· = false)) (c : Consumer)
    (mode mode' : Config.AckMode) {d d' : Delivery} {tag : Nat} {queue : String}
    {x x' : Connection} (htwins : Twins queue x x') (htag : d.receipt.tag? = some tag)
    (hmem : tag ∈ x.broker.unacknowledged) (hreceipt : d'.receipt = d.receipt)
    (hpayload : d.payload = d'.payload) (v : τ) (p : Phase) (stats : Stats) :
    ∃ o t t' trace trace',
      ((c.inMode mode).process (.scripted scripts) d).done ⟨(x, v), p, stats⟩ =
        ⟨.ok o, t, trace⟩ ∧
      ((c.inMode mode').process (.scripted scripts) d').done ⟨(x', v), p, stats⟩ =
        ⟨.ok o, t', trace'⟩ ∧
      Joined (Twins queue) t.world t'.world ∧ t.stats = t'.stats ∧
      trace.executions = trace'.executions := by
  obtain ⟨trace, hdone, hexecutions⟩ :=
    done_process_settled hscripts c mode v p stats htag htwins.accepts hmem
  obtain ⟨trace', hdone', hexecutions'⟩ :=
    done_process_settled hscripts c mode' v p stats (hreceipt ▸ htag)
      (htwins.broker.refusesAcks ▸ htwins.accepts) (htwins.broker.unacknowledged ▸ hmem)
  rw [hreceipt] at hdone' hexecutions'
  obtain ⟨houtcome, hafter, hdecided⟩ := (Twins.outlasts queue).decision_alike hscripts c hpayload
    (htwins.settled tag d.receipt) v
  rw [← houtcome] at hdone'
  refine ⟨_, _, _, _, _, hdone, hdone', hafter, rfl, ?_⟩
  rw [hexecutions, hexecutions', hdecided]

/-- **Listening goes alike in both modes,** as long as the tags have 64 bits. -/
theorem alike_listen (hscripts : ∀ a v, (scripts a v).Sets (· = false)) (c : Consumer)
    (mode mode' : Config.AckMode) (n : Nat) :
    ∀ s t : State (Connection × τ), Joined (Twins c.queue) s.world t.world →
      s.stats = t.stats →
      (((c.inMode mode).listen (.scripted scripts) n).done s).after.world.1.broker.delivered <
        2 ^ 64 →
      Alike (Joined (Twins c.queue)) (((c.inMode mode).listen (.scripted scripts) n).done s)
        (((c.inMode mode').listen (.scripted scripts) n).done t) := by
  induction n with
  | zero =>
    intro s t hw hs _
    rw [done_listen_zero, done_listen_zero]
    exact ⟨rfl, hw, hs, by simp⟩
  | succ n ih =>
    rintro ⟨⟨x, v⟩, p, stats⟩ ⟨⟨x', _⟩, p', _⟩ ⟨htwins, rfl⟩ rfl hfew
    obtain ⟨hx, hx'⟩ | ⟨m, m', ms, ms', hx, hx', hm, hdrawn⟩ := htwins.nextDelivery_cases
    · rw [done_listen_of_drained (nextDelivery_scripted scripts v hx),
        done_listen_of_drained (nextDelivery_scripted scripts v hx')]
      exact ⟨rfl, ⟨htwins, rfl⟩, rfl, by simp⟩
    · have hnext := nextDelivery_scripted scripts v hx
      have hnext' := nextDelivery_scripted scripts v hx'
      -- the tag that has just been handed out is among those that have 64 bits
      have hlater := (preserves_later scripts (x.handedOut c.queue ms)).listen_of_pulled
        (c.inMode mode) n (s := ⟨(x, v), p, stats⟩) hnext (.refl _)
      have hlt : x.broker.delivered + 1 < 2 ^ 64 := Nat.lt_of_le_of_lt hlater.delivered hfew
      have hreceipt : (x'.broker.handOut m').receipt = (x.broker.handOut m).receipt := by
        rw [Broker.handOut, Broker.handOut, htwins.broker.delivered]
      obtain ⟨o, t, t', trace, trace', hdone, hdone', hw, hstats, hexecutions⟩ :=
        alike_process hscripts c mode mode' (d := x.broker.handOut m) hdrawn
          (Receipt.tag?_ofTag hlt) (List.mem_append_right _ (List.mem_singleton_self _)) hreceipt
          hm v .processing stats
      rw [done_listen_of_handled hnext hdone] at hfew ⊢
      rw [done_listen_of_handled hnext' hdone']
      have hrest := ih t t' hw hstats hfew
      refine ⟨hrest.answer, hrest.world, hrest.stats, ?_⟩
      simp [hrest.executions, hexecutions, pulling]

end

/-! ### Runs in two modes -/

/-- Whether two runs start from the same, but for marks and registrations, and with a broker
that accepts acknowledgments. -/
structure SameStart (s t : State (Connection × τ)) : Prop where
  broker : s.world.1.broker.SameButMarks t.world.1.broker
  accepts : s.world.1.broker.refusesAcks = false
  /-- The executor is in the same state. -/
  executor : s.world.2 = t.world.2
  stats : s.stats = t.stats

/-- Two states that start alike do so both ways. -/
theorem SameStart.symm {s t : State (Connection × τ)} (h : SameStart s t) : SameStart t s :=
  ⟨h.broker.symm, h.broker.refusesAcks ▸ h.accepts, h.executor.symm, h.stats.symm⟩

/-- **Whether two runs have done the same,** but for marks. -/
structure Agree (d d' : Done (Connection × τ) Unit) : Prop where
  answer : d.answer = d'.answer
  executions : d.trace.executions = d'.trace.executions
  broker : d.after.world.1.broker.SameButMarks d'.after.world.1.broker
  registration : d.after.world.1.registration = d'.after.world.1.registration
  /-- The executor is in the same state. -/
  executor : d.after.world.2 = d'.after.world.2
  stats : d.after.stats = d'.after.stats
  phase : d.after.phase = d'.after.phase

/-- How many deliveries the broker has made when work is done. -/
def Done.delivered (d : Done (Connection × τ) Unit) : Nat := d.after.world.1.broker.delivered

section
variable {c : Consumer} {scripts : Command.Action → τ → Script τ} {mode mode' : Config.AckMode}
  {s t : State (Connection × τ)} {looks : Option Nat}

/-- **Runs agree that have as many looks,** in any two modes. -/
theorem agree_run (hscripts : ∀ a v, (scripts a v).Sets (· = false)) (h : SameStart s t)
    (n : Nat)
    (hfew : (((c.inMode mode).run (.scripted scripts) n).done s).delivered < 2 ^ 64) :
    Agree (((c.inMode mode).run (.scripted scripts) n).done s)
      (((c.inMode mode').run (.scripted scripts) n).done t) := by
  have hstart := startConsuming_scripted (c.inMode mode) scripts s.world
  have hstart' := startConsuming_scripted (c.inMode mode') scripts t.world
  rw [← h.broker.isSome_get?] at hstart'
  by_cases hq : (s.world.1.broker.queues.get? c.queue).isSome
  · obtain ⟨trace, hrun, hexecutions⟩ := done_run_of_registered n (hstart.trans (if_pos hq))
    obtain ⟨trace', hrun', hexecutions'⟩ := done_run_of_registered n (hstart'.trans (if_pos hq))
    rw [hrun] at hfew ⊢
    rw [hrun']
    have halike := alike_listen hscripts c mode mode' n
      { s with world := c.registered s.world } { t with world := c.registered t.world }
      ⟨⟨h.broker, h.accepts, rfl, rfl⟩, h.executor⟩ h.stats hfew
    exact ⟨halike.answer, (hexecutions.trans halike.executions).trans hexecutions'.symm,
      halike.world.1.broker.close, rfl, halike.world.2, halike.stats, rfl⟩
  · obtain ⟨trace, hrun, hexecutions⟩ := done_run_scripted (c.inMode mode) scripts n s
    obtain ⟨trace', hrun', hexecutions'⟩ := done_run_scripted (c.inMode mode') scripts n t
    rw [done_consume_of_unregistered (hstart.trans (if_neg hq))] at hrun hexecutions
    rw [done_consume_of_unregistered (hstart'.trans (if_neg hq))] at hrun' hexecutions'
    rw [hrun, hrun']
    exact ⟨rfl, hexecutions.trans hexecutions'.symm, h.broker.close, rfl, h.executor, h.stats,
      rfl⟩

/-- Where one run is over, the other one is, and they agree. -/
theorem exists_agree (hscripts : ∀ a v, (scripts a v).Sets (· = false)) (h : SameStart s t)
    {d : Done (Connection × τ) Unit}
    (hd : (c.inMode mode).Ends (.scripted scripts) looks s d) (hfew : d.delivered < 2 ^ 64) :
    ∃ d', (c.inMode mode').Ends (.scripted scripts) looks t d' ∧ Agree d d' := by
  obtain ⟨n, rfl, hn⟩ := ends_scripted_iff.1 hd
  have hagree : Agree _ (((c.inMode mode').run (.scripted scripts) n).done t) :=
    agree_run hscripts h n hfew
  rw [hagree.answer] at hn
  exact ⟨_, ends_scripted_iff.2 ⟨n, rfl, hn⟩, hagree⟩

/-- **Neither the mode nor the marks matter.**  Of two runs in any two modes, by executors
that do not have acknowledgments refused and on brokers that differ in marks only, one is
over just if the other one is, and they have done the same, as long as the tags have 64
bits. -/
theorem modes_agree (hscripts : ∀ a v, (scripts a v).Sets (· = false)) (h : SameStart s t) :
    ((∃ d, (c.inMode mode).Ends (.scripted scripts) looks s d ∧ d.delivered < 2 ^ 64) ↔
        ∃ d', (c.inMode mode').Ends (.scripted scripts) looks t d' ∧ d'.delivered < 2 ^ 64) ∧
      ∀ d d', (c.inMode mode).Ends (.scripted scripts) looks s d →
        (c.inMode mode').Ends (.scripted scripts) looks t d' → d.delivered < 2 ^ 64 →
        Agree d d' := by
  refine ⟨⟨fun ⟨d, hd, hfew⟩ => ?_, fun ⟨d', hd', hfew⟩ => ?_⟩, fun d d' hd hd' hfew => ?_⟩
  · obtain ⟨d', hd', hagree⟩ := exists_agree hscripts h hd hfew
    exact ⟨d', hd', Nat.lt_of_le_of_lt (Nat.le_of_eq hagree.broker.delivered.symm) hfew⟩
  · obtain ⟨d, hd, hagree⟩ := exists_agree hscripts h.symm hd' hfew
    exact ⟨d, hd, Nat.lt_of_le_of_lt (Nat.le_of_eq hagree.broker.delivered.symm) hfew⟩
  · obtain ⟨other, hother, hagree⟩ := exists_agree hscripts h hd hfew
    rwa [hd'.unique hother]

end

/-- The command for the first alert sends another one; the alert that waits is marked as
redelivered in one of the brokers. -/
theorem modes_agree_of_alert_sent :
    let c : Consumer := ⟨⟨⟨⟨"", .empty⟩, ["a"]⟩, .standard⟩, "alerts", .onReceipt⟩
    let scripts : Command.Action → Nat → Script Nat := fun _ earlier =>
      if earlier = 0 then .send "alerts" [97] false fun _ => .answer ⟨.ok (.ofExitStatus 0 0), 1, []⟩
      else .answer ⟨.ok (.ofExitStatus 3 0), earlier + 1, []⟩
    let b : Bool → Broker := fun redelivered =>
      { Broker.empty with queues := [("alerts", [⟨[97], redelivered⟩])] }
    ∃ d d' : Done (Connection × Nat) Unit,
      (c.inMode .onReceipt).Ends (.scripted scripts) none (.initial (⟨b false, none⟩, 0)) d ∧
      (c.inMode .afterExecution).Ends (.scripted scripts) none (.initial (⟨b true, none⟩, 0)) d' ∧
      d.answer = .error (.connectionClosed "alerts") ∧ d.after.stats.received = 2 ∧
      Agree d d' := by
  intro c scripts b
  have hscripts : ∀ a v, (scripts a v).Sets (· = false) := by
    intro a v
    show Script.Sets _ (if v = 0 then _ else _)
    split
    · exact fun _ => trivial
    · trivial
  have hb : (b false).SameButMarks (b true) := by
    refine ⟨fun queue => ?_, rfl, rfl, rfl, rfl, rfl⟩
    simp only [b, Messaging.Queues.get?]
    split <;> rfl
  obtain ⟨d, hd⟩ := (@unasked_iff _ (c.inMode .onReceipt) (.scripted scripts) 3
    (.initial (⟨b false, none⟩, 0))).2 ⟨.connectionClosed "alerts", by decide⟩
  have hrun := eq_done_run_of_unasked hd
  have hfew : d.delivered < 2 ^ 64 := by rw [hrun]; decide
  have hboth := @modes_agree Nat c scripts .onReceipt .afterExecution
    (.initial (⟨b false, none⟩, 0)) (.initial (⟨b true, none⟩, 0)) none hscripts
    ⟨hb, rfl, rfl, rfl⟩
  obtain ⟨d', hd', -⟩ := hboth.1.1 ⟨d, ⟨3, hd⟩, hfew⟩
  refine ⟨d, d', ⟨3, hd⟩, hd', ?_, ?_, hboth.2 d d' ⟨3, hd⟩ hd' hfew⟩ <;> rw [hrun] <;> decide

end Consumer
end Remedy
