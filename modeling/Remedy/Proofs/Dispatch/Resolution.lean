/-
# What becomes of a payload

A payload names a service if its bytes are the name as UTF-8 and there are any
(`Names`).  `Resolves` says what becomes of a payload, rule by rule: it becomes the action
for the service that it names, if the name matches the pattern and the allow-list lets it
pass, and otherwise it is rejected for the first reason that applies.  There is always one
rule that applies, and the dispatcher does what it says (`resolve_eq_iff`).

The allow-list counts as a set only, and the action depends on the payload and the template
alone (`policy_decides`).
-/

import Remedy.Dispatch.Dispatcher
import Remedy.Proofs.Text.Utf8

namespace Remedy

namespace Dispatch

/-- **Whether a payload names a service:** its bytes are the name, and there are some. -/
structure Names (payload : List UInt8) (name : String) : Prop where
  bytes : Text.Utf8.encode name.toList = payload
  nonempty : payload ≠ []

/-- Whether an allow-list lets a name pass; an empty one allows every name. -/
def Permits (allowed : List String) (name : String) : Prop := allowed ≠ [] → name ∈ allowed

/-! ### Names -/

section
variable {payload : List UInt8} {name : String}

/-- Only the empty name has no bytes. -/
theorem encode_toList_eq_nil_iff : Text.Utf8.encode name.toList = [] ↔ name = "" := by
  constructor
  · intro h
    exact String.toList_inj.1 (Text.Utf8.encode_injective (h.trans Text.Utf8.encode_nil.symm))
  · rintro rfl
    rfl

/-- A payload names one service at most. -/
theorem Names.unique {name' : String} (h : Names payload name) (h' : Names payload name') :
    name = name' :=
  String.toList_inj.1 (Text.Utf8.encode_injective (h.bytes.trans h'.bytes.symm))

/-- A name of a payload is not empty. -/
theorem Names.ne_empty (h : Names payload name) : name ≠ "" := fun hname =>
  h.nonempty (h.bytes.symm.trans (encode_toList_eq_nil_iff.2 hname))

namespace Identifier

/-- **A payload is read as the name whose bytes it is.** -/
theorem ofPayload_eq_ok_iff {i : Identifier} : ofPayload payload = .ok i ↔ Names payload i.text := by
  unfold ofPayload
  constructor
  · intro h
    split at h
    · cases h
    · next cs hcs =>
      unfold ofText at h
      split at h
      · cases h
      · next hne =>
        cases h
        have hbytes : Text.Utf8.encode (String.ofList cs).toList = payload := by
          rw [String.toList_ofList]
          exact Text.Utf8.decode_eq_ok_iff.1 hcs
        exact ⟨hbytes, fun hnil => hne (encode_toList_eq_nil_iff.1 (hbytes.trans hnil))⟩
  · intro h
    have hcs := Text.Utf8.decode_eq_ok_iff.2 h.bytes
    simp only [hcs, String.ofList_toList, ofText, dif_neg i.nonempty]

/-- A payload is no text, is empty, or names a service. -/
theorem ofPayload_cases (payload : List UInt8) :
    (∃ fault, Text.Utf8.decode payload = .error fault ∧
      (∀ name : String, Text.Utf8.encode name.toList ≠ payload) ∧
      ofPayload payload = .error (.invalidUtf8 fault.message)) ∨
    (payload = [] ∧ ofPayload payload = .error .emptyPayload) ∨
    ∃ i, Names payload i.text ∧ ofPayload payload = .ok i := by
  cases hp : ofPayload payload with
  | ok i => exact .inr (.inr ⟨i, ofPayload_eq_ok_iff.1 hp, rfl⟩)
  | error e =>
    unfold ofPayload at hp
    split at hp
    · next fault hf =>
      refine .inl ⟨fault, hf, fun name hname => ?_, hp.symm⟩
      rw [Text.Utf8.decode_eq_ok_iff.2 hname] at hf
      cases hf
    · next cs hcs =>
      unfold ofText at hp
      split at hp
      · next hempty =>
        have hnil : cs = [] := by rw [← String.toList_ofList (l := cs), hempty]; rfl
        refine .inr (.inl ⟨?_, hp.symm⟩)
        rw [← Text.Utf8.decode_eq_ok_iff.1 hcs, hnil]
        rfl
      · cases hp

end Identifier
end

/-! ### Policies -/

namespace Policy

variable {p : Policy} {i : Identifier}

/-- A name that does not match is unsafe. -/
theorem check_of_unmatched (h : p.pattern.occursIn i.text = false) :
    p.check i = .error (.unsafeIdentifier i.text p.pattern.text) := by
  rw [check, h]
  rfl

/-- A name that matches is checked against the allow-list. -/
theorem check_of_matched (h : p.pattern.occursIn i.text = true) :
    p.check i =
      if p.allowed ≠ [] ∧ i.text ∉ p.allowed then .error (.notAllowed i.text) else .ok () := by
  have hlist : (p.isRestricted && !p.allowed.contains i.text) = true ↔
      p.allowed ≠ [] ∧ i.text ∉ p.allowed := by
    simp [isRestricted]
  rw [check, h]
  simp only [Bool.not_true, Bool.false_eq_true, if_false, hlist]

/-- A name that matches and is not listed is not allowed. -/
theorem check_of_unlisted (h : p.pattern.occursIn i.text = true) (hl : ¬Permits p.allowed i.text) :
    p.check i = .error (.notAllowed i.text) := by
  rw [check_of_matched h, if_pos (Classical.not_imp.1 hl)]

/-- A name that matches and is permitted passes. -/
theorem check_of_accepted (h : p.pattern.occursIn i.text = true) (hl : Permits p.allowed i.text) :
    p.check i = .ok () := by
  rw [check_of_matched h, if_neg fun hn => hn.2 (hl hn.1)]

end Policy

end Dispatch

/-! ### Resolution -/

namespace Dispatcher

open Dispatch

variable {d : Dispatcher} {payload : List UInt8} {name : String}

/-- **What becomes of a payload,** by the first of these reasons that applies: it is no text, it
is empty, the name does not match, the name is not listed, or there is nothing against it. -/
inductive Resolves (d : Dispatcher) (payload : List UInt8) :
    Except Rejection Command.Action → Prop
  | notText {fault : Text.Utf8.Fault} (h : ∀ name : String, Text.Utf8.encode name.toList ≠ payload)
      (hf : Text.Utf8.decode payload = .error fault) :
      Resolves d payload (.error (.invalidUtf8 fault.message))
  | empty (h : payload = []) : Resolves d payload (.error .emptyPayload)
  | unmatched {name : String} (h : Names payload name)
      (hm : d.policy.pattern.occursIn name = false) :
      Resolves d payload (.error (.unsafeIdentifier name d.policy.pattern.text))
  | unlisted {name : String} (h : Names payload name)
      (hm : d.policy.pattern.occursIn name = true) (hl : ¬Permits d.policy.allowed name) :
      Resolves d payload (.error (.notAllowed name))
  | accepted {i : Identifier} (h : Names payload i.text)
      (hm : d.policy.pattern.occursIn i.text = true) (hl : Permits d.policy.allowed i.text) :
      Resolves d payload (.ok ⟨d.template, i⟩)

/-- A payload that names nothing is rejected for that. -/
theorem resolve_of_error {e : Rejection} (h : Identifier.ofPayload payload = .error e) :
    d.resolve payload = .error e := by
  simp only [resolve, identify, h]
  rfl

/-- A payload that names a service is resolved by the policy. -/
theorem resolve_of_ok {i : Identifier} (h : Identifier.ofPayload payload = .ok i) :
    d.resolve payload = (d.policy.check i).map fun _ => ⟨d.template, i⟩ := by
  simp only [resolve, identify, h, bind, Except.bind]
  cases d.policy.check i <;> rfl

/-- There is always a rule that applies. -/
theorem resolves_resolve (d : Dispatcher) (payload : List UInt8) :
    Resolves d payload (d.resolve payload) := by
  rcases Identifier.ofPayload_cases payload with ⟨fault, hf, hno, hp⟩ | ⟨hnil, hp⟩ | ⟨i, hi, hp⟩
  · rw [resolve_of_error hp]
    exact .notText hno hf
  · rw [resolve_of_error hp]
    exact .empty hnil
  · rw [resolve_of_ok hp]
    cases hm : d.policy.pattern.occursIn i.text with
    | false =>
      rw [Policy.check_of_unmatched hm]
      exact .unmatched hi hm
    | true =>
      by_cases hl : Permits d.policy.allowed i.text
      · rw [Policy.check_of_accepted hm hl]
        exact .accepted hi hm hl
      · rw [Policy.check_of_unlisted hm hl]
        exact .unlisted hi hm hl

/-- **The dispatcher does what the rules say.** -/
theorem resolve_eq_iff {r : Except Rejection Command.Action} :
    d.resolve payload = r ↔ Resolves d payload r := by
  constructor
  · rintro rfl
    exact resolves_resolve d payload
  · intro h
    have hname : ∀ {name : String} (h : Names payload name),
        Identifier.ofPayload payload = .ok ⟨name, h.ne_empty⟩ := by
      intro name h
      exact Identifier.ofPayload_eq_ok_iff.2 h
    cases h with
    | notText hno hf =>
      refine resolve_of_error ?_
      rw [Identifier.ofPayload, hf]
    | empty hnil =>
      rw [hnil]
      rfl
    | unmatched h hm =>
      rw [resolve_of_ok (hname h), Policy.check_of_unmatched (i := ⟨_, h.ne_empty⟩) hm]
      rfl
    | unlisted h hm hl =>
      rw [resolve_of_ok (hname h), Policy.check_of_unlisted (i := ⟨_, h.ne_empty⟩) hm hl]
      rfl
    | accepted h hm hl =>
      rw [resolve_of_ok (Identifier.ofPayload_eq_ok_iff.2 h), Policy.check_of_accepted hm hl]
      rfl

/-- A payload is accepted with the action for the service that it names. -/
theorem resolve_eq_ok_iff {a : Command.Action} :
    d.resolve payload = .ok a ↔ a.template = d.template ∧ Names payload a.target.text ∧
      d.policy.pattern.occursIn a.target.text = true ∧ Permits d.policy.allowed a.target.text := by
  rw [resolve_eq_iff]
  constructor
  · rintro ⟨⟩
    exact ⟨rfl, ‹_›, ‹_›, ‹_›⟩
  · obtain ⟨template, target⟩ := a
    rintro ⟨rfl, h, hm, hl⟩
    exact .accepted h hm hl

/-- Only what an allow-list holds matters. -/
theorem Resolves.of_allowed {p : Pattern.Compiled} {allowed allowed' : List String}
    {template : Command.Template} {r : Except Rejection Command.Action}
    (hsame : ∀ name, name ∈ allowed' ↔ name ∈ allowed)
    (h : Resolves ⟨⟨p, allowed⟩, template⟩ payload r) :
    Resolves ⟨⟨p, allowed'⟩, template⟩ payload r := by
  have hlists : ∀ name, Permits allowed' name ↔ Permits allowed name := by
    intro name
    have hnil : allowed' = [] ↔ allowed = [] := by
      simp only [List.eq_nil_iff_forall_not_mem, hsame]
    rw [Permits, Permits, hsame, Ne, hnil]
  cases h with
  | notText hno hf => exact .notText hno hf
  | empty hnil => exact .empty hnil
  | unmatched h hm => exact .unmatched h hm
  | unlisted h hm hl => exact .unlisted h hm (fun hl' => hl ((hlists _).1 hl'))
  | accepted h hm hl => exact .accepted h hm ((hlists _).2 hl)

/-- **The policy decides, and the bytes are kept.**  With a pattern that can be used, any
allow-list and any template, a payload becomes what the rules say: it is accepted if and only
if it names a service that matches the pattern and that the list lets pass, and then the
action has the template and a target whose bytes are the payload.  The allow-list counts as a
set, and whatever other policy accepts the payload gives the same action. -/
theorem policy_decides {pattern : String} {p : Pattern.Compiled}
    (hp : Pattern.compile pattern = .ok p) (allowed : List String) (template : Command.Template)
    (payload : List UInt8) :
    let d : Dispatcher := ⟨⟨p, allowed⟩, template⟩
    Policy.ofPattern pattern allowed = .ok d.policy ∧
    (∀ r, d.resolve payload = r ↔ Resolves d payload r) ∧
    ((∃ a, d.resolve payload = .ok a) ↔
      ∃ name, Names payload name ∧ p.occursIn name = true ∧ Permits allowed name) ∧
    (∀ a, d.resolve payload = .ok a →
      a.template = template ∧ Text.Utf8.encode a.target.text.toList = payload) ∧
    (∀ allowed', (∀ name, name ∈ allowed' ↔ name ∈ allowed) →
      (⟨⟨p, allowed'⟩, template⟩ : Dispatcher).resolve payload = d.resolve payload) ∧
    ∀ d' : Dispatcher, d'.template = template → ∀ a a', d.resolve payload = .ok a →
      d'.resolve payload = .ok a' → a = a' := by
  intro d
  refine ⟨?_, fun r => resolve_eq_iff, ?_, fun a ha => ?_, fun allowed' hsame => ?_,
    fun d' ht a a' ha ha' => ?_⟩
  · rw [Policy.ofPattern, hp]
  · constructor
    · rintro ⟨a, ha⟩
      exact ⟨a.target.text, (resolve_eq_ok_iff.1 ha).2⟩
    · rintro ⟨name, h, hm, hl⟩
      exact ⟨⟨template, ⟨name, h.ne_empty⟩⟩, resolve_eq_ok_iff.2 ⟨rfl, h, hm, hl⟩⟩
  · obtain ⟨htemplate, h, -, -⟩ := resolve_eq_ok_iff.1 ha
    exact ⟨htemplate, h.bytes⟩
  · exact resolve_eq_iff.2 ((resolves_resolve d payload).of_allowed hsame)
  · obtain ⟨htemplate, h, -, -⟩ := resolve_eq_ok_iff.1 ha
    obtain ⟨htemplate', h', -, -⟩ := resolve_eq_ok_iff.1 ha'
    obtain ⟨t, ⟨text, hne⟩⟩ := a
    obtain ⟨t', ⟨text', hne'⟩⟩ := a'
    obtain rfl : text = text' := h.unique h'
    obtain rfl : t = t' := htemplate.trans (ht.symm.trans htemplate'.symm)
    rfl

/-- A name that is listed twice. -/
theorem policy_decides_of_repeated_name :
    let p : Pattern.Compiled := ⟨"[a-z]+", .rep (.set [(0x61, 0x7A)]) 1 none true⟩
    Pattern.compile "[a-z]+" = .ok p ∧
      (∃ a, (⟨⟨p, ["web", "db", "web"]⟩, .standard⟩ : Dispatcher).resolve [0x77, 0x65, 0x62] =
        .ok a) ∧
      (⟨⟨p, ["db", "web"]⟩, .standard⟩ : Dispatcher).resolve [0x77, 0x65, 0x62] =
        (⟨⟨p, ["web", "db", "web"]⟩, .standard⟩ : Dispatcher).resolve [0x77, 0x65, 0x62] := by
  intro p
  have hp : Pattern.compile "[a-z]+" = .ok p := rfl
  obtain ⟨-, -, haccepted, -, hset, -⟩ :=
    policy_decides hp ["web", "db", "web"] .standard [0x77, 0x65, 0x62]
  refine ⟨hp, haccepted.2 ⟨"web", ⟨by decide, by decide⟩, by decide, fun _ => by decide⟩,
    hset ["db", "web"] fun name => ?_⟩
  simp only [List.mem_cons, List.not_mem_nil, or_false]
  constructor
  · rintro (h | h)
    · exact .inr (.inl h)
    · exact .inl h
  · rintro (h | h | h)
    · exact .inr h
    · exact .inl h
    · exact .inr h

end Dispatcher
end Remedy
