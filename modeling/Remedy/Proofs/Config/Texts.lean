/-
# Settings that are texts

Of the settings that are texts, those of the endpoint are the text of their variable.  The
section of the remediation is parsed, for the sake of its list of services, and that reaches its
texts as well: one that spells a truth value or a number is written anew, and it is the text of
its variable only if that comes to the same (`texts_read`).  So `007` becomes a pattern of `7`
(`numeral_rewritten`), which is found in more names.
-/

import Remedy.Proofs.Config.Locality
import Remedy.Proofs.Settings.Scalars

namespace Remedy

/-- The text that a path is made of is found in it. -/
theorem Host.Path.text?_ofText (s : String) : (ofText s).text? = some s := by
  rw [text?, ofText, Text.Utf8.decode?, Text.Utf8.decode_encode]
  exact congrArg some String.ofList_toList

namespace Config

open Settings (Plain Section Value Variables Respelled Verbatim isScalarChar)

namespace Setting

/-- The settings of the endpoint that are texts. -/
def endpointTexts : List Setting := [host, queue, vhost, url]

/-- The settings of the remediation that are texts. -/
def runbookTexts : List Setting := [command, pattern, workingDir]

/-- The text that a configuration has for a setting, if that is a text, or a path that is one. -/
def text? (c : Config) : Setting → Option String
  | host => some c.endpoint.host
  | queue => some c.endpoint.queue
  | vhost => some c.endpoint.vhost
  | url => c.endpoint.url
  | command => some c.runbook.command
  | pattern => some c.runbook.pattern
  | workingDir => c.runbook.workingDir.bind Host.Path.text?
  | port | durable | prefetch | timeoutSeconds | allowed | ackMode => none

end Setting

variable {s : Setting} {v x : Value} {w : String} {c : Config}

/-- A setting that is there is read off its value. -/
theorem read_of_member {α : Type} {name : String} {a : α} {f : Value → Except Settings.Error α}
    (hm : v.member? name = some x) (hx : f x = .ok a) (default : α) :
    read v name default f = .ok a := by
  rw [read, hm]
  exact mapError_eq_ok_iff.2 hx

/-- A setting that may be absent is there if a value can be read for it. -/
theorem readOptional_of_ok {α : Type} {a : α} {f : Value → Except Settings.Error α}
    (hx : x ≠ .nil) (hf : f x = .ok a) : readOptional f x = .ok (some a) := by
  unfold readOptional
  split
  · exact absurd rfl hx
  · rw [hf]
    rfl

/-- **A text is read off its member.** -/
theorem text?_of_read (hs : s ∈ Setting.endpointTexts ++ Setting.runbookTexts)
    (hm : v.member? s.name = some x) (hx : x.asText = .ok w) (hread : s.read v = .ok (s.get c)) :
    s.text? c = some w := by
  have hplain : ∀ {name : String} (default a : String), v.member? name = some x →
      Config.read v name default Value.asText = .ok a → some a = some w := by
    intro name default a hmember ha
    rw [read_of_member hmember hx default] at ha
    rw [Except.ok.inj ha]
  have hne : x ≠ .nil := by
    rintro rfl
    cases hx
  simp only [Setting.endpointTexts, Setting.runbookTexts, List.cons_append, List.nil_append,
    List.mem_cons, List.not_mem_nil, or_false] at hs
  rcases hs with rfl | rfl | rfl | rfl | rfl | rfl | rfl
  · exact hplain _ _ hm hread
  · exact hplain _ _ hm hread
  · exact hplain _ _ hm hread
  · have hurl := readOptional_of_ok hne hx
    have hfound := (read_of_member hm hurl Endpoint.standard.url).symm.trans hread
    exact (Except.ok.inj hfound).symm
  · exact hplain _ _ hm hread
  · exact hplain _ _ hm hread
  · have hpath : x.asText.map Host.Path.ofText = .ok (.ofText w) := map_eq_ok_iff.2 ⟨w, hx, rfl⟩
    have hdir := readOptional_of_ok (f := fun v => v.asText.map Host.Path.ofText) hne hpath
    have hfound := (read_of_member hm hdir Runbook.standard.workingDir).symm.trans hread
    have hworking : c.runbook.workingDir = some (.ofText w) := (Except.ok.inj hfound).symm
    rw [Setting.text?, hworking]
    exact Host.Path.text?_ofText w

/-! ### Texts of variables -/

/-- What a text for a setting is written as. -/
theorem text?_of_load {vars : Variables} (h : Plain vars) {isDirectory : Host.Path → Bool}
    (hc : (load isDirectory vars).1 = .ok c)
    (hs : s ∈ Setting.endpointTexts ++ Setting.runbookTexts) {name t : String}
    (hmem : (name, t) ∈ vars) (hname : Character.lowercase name = s.variableName) (ht : t ≠ "")
    (hw : (s.part.value s.name t).asText = .ok w) : s.text? c = some w := by
  have hport : s ≠ .port := by
    rintro rfl
    exact absurd hs (by decide)
  exact text?_of_read hs (member?_of_gives h (gives_of_ne_port hport hmem hname ht)) hw
    (read_of_load hc s)

/-- **How texts are taken.**  Of a configuration that has been loaded, a text of the endpoint is
what its variable holds.  A text of the remediation is that too if it holds any character that
numbers and truth values are not spelled with; in general it is what the variable holds, written
anew, and that is the same if and only if the variable spells its number or truth value, if it
spells one, as it would be written. -/
theorem texts_read {vars : Variables} (h : Plain vars) {isDirectory : Host.Path → Bool}
    (hc : (load isDirectory vars).1 = .ok c) {name t : String} (hmem : (name, t) ∈ vars)
    (ht : t ≠ "") :
    (∀ s ∈ Setting.endpointTexts, Character.lowercase name = s.variableName →
      s.text? c = some t) ∧
    ∀ s ∈ Setting.runbookTexts, Character.lowercase name = s.variableName →
      (∃ w, s.text? c = some w ∧ ∀ w', Respelled t w' ↔ w' = w) ∧
      (s.text? c = some t ↔ Verbatim t) ∧
      ((∃ x ∈ t.toList, isScalarChar x = false) → s.text? c = some t) := by
  constructor
  · intro s hs hname
    have hvalue : s.part.value s.name t = .text t := by
      have hpart : ∀ s ∈ Setting.endpointTexts, s.part.parsed = false := by decide
      rw [Section.value, hpart s hs]
      rfl
    refine text?_of_load h hc (List.mem_append_left _ hs) hmem hname ht ?_
    rw [hvalue]
    rfl
  · intro s hs hname
    obtain ⟨w, hw⟩ := Settings.exists_respelled t
    have hvalue : (s.part.value s.name t).asText = .ok w := by
      have hpart : ∀ s ∈ Setting.runbookTexts, s.part.parsed = true ∧
          s.part.lists.contains s.name = false := by decide
      obtain ⟨hparsed, hlist⟩ := hpart s hs
      rw [Section.value, if_pos hparsed]
      exact (Settings.asText_parse hlist).2 hw
    have htext := text?_of_load h hc (List.mem_append_right _ hs) hmem hname ht hvalue
    have hsame : s.text? c = some t ↔ Verbatim t := by
      rw [htext, Option.some.injEq, ← Settings.respelled_self_iff]
      constructor
      · rintro rfl
        exact hw
      · exact hw.unique
    have hunique : ∀ w', Respelled t w' ↔ w' = w := by
      intro w'
      constructor
      · exact fun hw' => hw'.unique hw
      · rintro rfl
        exact hw
    exact ⟨⟨w, htext, hunique⟩, hsame, fun hother => hsame.2 (Settings.verbatim_of_char hother)⟩

/-- **A pattern that is not what its variable holds:** seven is written without zeros. -/
theorem numeral_rewritten :
    let vars := [("RUNBOOK_SERVICE_PATTERN", "007")]
    Plain vars ∧ ∃ c, (load (fun _ => true) vars).1 = .ok c ∧
      Setting.pattern.variableName = Character.lowercase "RUNBOOK_SERVICE_PATTERN" ∧
      Setting.pattern.text? c = some "7" := by
  refine ⟨⟨by decide, by decide⟩,
    ⟨Endpoint.standard, { Runbook.standard with pattern := "7" }⟩, ?_, by decide, rfl⟩
  decide +kernel

/-- A queue with a number for its name, a command that is a truth value, and a pattern. -/
theorem texts_read_of_several :
    let vars := [("RABBITMQ_QUEUE", "007"), ("RUNBOOK_COMMAND", "True"),
      ("RUNBOOK_SERVICE_PATTERN", "[a-z]+")]
    ∃ c, (load (fun _ => true) vars).1 = .ok c ∧ Setting.queue.text? c = some "007" ∧
      Setting.command.text? c ≠ some "True" ∧ Setting.pattern.text? c = some "[a-z]+" := by
  intro vars
  have hplain : Plain vars := ⟨by decide, by decide⟩
  have hload : (load (fun _ => true) vars).1 =
      .ok ⟨{ Endpoint.standard with queue := "007" },
        { Runbook.standard with command := "true", pattern := "[a-z]+" }⟩ := by decide +kernel
  have hqueue : ("RABBITMQ_QUEUE", "007") ∈ vars := by decide
  have hcommand : ("RUNBOOK_COMMAND", "True") ∈ vars := by decide
  have hpattern : ("RUNBOOK_SERVICE_PATTERN", "[a-z]+") ∈ vars := by decide
  have hname := (texts_read hplain hload hqueue (by decide)).1 .queue (by decide) (by decide)
  have hkept := (texts_read hplain hload hpattern (by decide)).2 .pattern (by decide) (by decide)
  have hanew := (texts_read hplain hload hcommand (by decide)).2 .command (by decide) (by decide)
  refine ⟨_, hload, hname, fun htrue => ?_, hkept.2.2 ⟨'[', by decide, by decide⟩⟩
  exact absurd ((hanew.2.1.1 htrue).truth true (by decide)) (by decide)

end Config
end Remedy
