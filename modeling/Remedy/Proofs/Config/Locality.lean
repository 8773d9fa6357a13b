/-
# Each setting has a variable of its own

A configuration is its settings (`Setting.ext`), and it is described by variables if and only if
each setting is read off the section that it belongs to (`ofVariables_eq_ok_iff`).  A setting
is read off one member of the section, the member off one variable, and no two settings share
theirs.  So variables that are for no setting, and empty ones, do not matter, and a setting
depends on its own variable alone (`settings_local`).

Names of variables are compared in lower case, but for one: only `RABBITMQ_PORT` itself is passed
over if it is no number, and no other spelling of it.  So the port, unlike any other setting, is
not decided by the value of its variable: `true` is port 1 in one spelling and no port in another
(`port_of_other_spelling`).
-/

import Remedy.Proofs.Config.Building
import Remedy.Proofs.Config.Credentials
import Remedy.Proofs.Results

namespace Remedy
namespace Config

open Settings (Plain Section Value Variables)

/-! ### Settings -/

/-- The settings of a configuration. -/
inductive Setting where
  | host
  | queue
  | port
  | vhost
  | url
  | durable
  | prefetch
  | command
  | timeoutSeconds
  | workingDir
  | allowed
  | pattern
  | ackMode
  deriving DecidableEq

namespace Setting

/-- The name of the variable for a setting, in lower case. -/
def variableName : Setting → String
  | host => "rabbitmq_host"
  | queue => "rabbitmq_queue"
  | port => "rabbitmq_port"
  | vhost => "rabbitmq_vhost"
  | url => "rabbitmq_url"
  | durable => "rabbitmq_durable"
  | prefetch => "rabbitmq_prefetch_count"
  | command => "runbook_command"
  | timeoutSeconds => "runbook_timeout_seconds"
  | workingDir => "runbook_working_dir"
  | allowed => "runbook_allowed_services"
  | pattern => "runbook_service_pattern"
  | ackMode => "runbook_ack_mode"

/-- What a setting is a choice of. -/
def type : Setting → Type
  | host | queue | vhost | command | pattern => String
  | port | prefetch => UInt16
  | url => Option String
  | durable => Bool
  | timeoutSeconds => UInt64
  | workingDir => Option Host.Path
  | allowed => List String
  | ackMode => AckMode

/-- What a configuration has for a setting. -/
def get (c : Config) : (s : Setting) → s.type
  | host => c.endpoint.host
  | queue => c.endpoint.queue
  | port => c.endpoint.port
  | vhost => c.endpoint.vhost
  | url => c.endpoint.url
  | durable => c.endpoint.durable
  | prefetch => c.endpoint.prefetch
  | command => c.runbook.command
  | timeoutSeconds => c.runbook.timeoutSeconds
  | workingDir => c.runbook.workingDir
  | allowed => c.runbook.allowed
  | pattern => c.runbook.pattern
  | ackMode => c.runbook.ackMode

/-- A configuration is its settings. -/
theorem ext {c c' : Config} (h : ∀ s : Setting, s.get c = s.get c') : c = c' := by
  obtain ⟨⟨_, _, _, _, _, _, _⟩, ⟨_, _, _, _, _, _⟩⟩ := c
  obtain ⟨⟨_, _, _, _, _, _, _⟩, ⟨_, _, _, _, _, _⟩⟩ := c'
  obtain rfl := h host
  obtain rfl := h queue
  obtain rfl := h port
  obtain rfl := h vhost
  obtain rfl := h url
  obtain rfl := h durable
  obtain rfl := h prefetch
  obtain rfl := h command
  obtain rfl := h timeoutSeconds
  obtain rfl := h workingDir
  obtain rfl := h allowed
  obtain rfl := h pattern
  obtain rfl := h ackMode
  rfl

/-- The section that a setting belongs to. -/
def part : Setting → Section
  | host | queue | port | vhost | url | durable | prefetch => endpointSection
  | command | timeoutSeconds | workingDir | allowed | pattern | ackMode => runbookSection

/-- What a setting is called there. -/
def name : Setting → String
  | host => "host"
  | queue => "queue"
  | port => "port"
  | vhost => "vhost"
  | url => "url"
  | durable => "durable"
  | prefetch => "prefetch_count"
  | command => "command"
  | timeoutSeconds => "timeout_seconds"
  | workingDir => "working_dir"
  | allowed => "allowed_services"
  | pattern => "service_pattern"
  | ackMode => "ack_mode"

/-- A variable is named for the part of its setting and for the setting. -/
theorem variableName_eq (s : Setting) : s.variableName = s.part.start ++ s.name := by
  cases s <;> decide

/-- All settings, in order. -/
def all : List Setting :=
  [host, queue, port, vhost, url, durable, prefetch, command, timeoutSeconds, workingDir, allowed,
    pattern, ackMode]

/-- There are no other settings. -/
theorem mem_all (s : Setting) : s ∈ all := by
  cases s <;> decide

/-- No two settings have one variable. -/
theorem eq_of_variableName {s s' : Setting} (h : s.variableName = s'.variableName) : s = s' := by
  have hnodup : (all.map variableName).Nodup := by decide
  exact List.inj_on_of_nodup_map hnodup s.mem_all s'.mem_all h

/-- What a section says of a setting, which has its default where it says nothing. -/
def read (v : Value) : (s : Setting) → Except Settings.Error s.type
  | host => Config.read v "host" Endpoint.standard.host Value.asText
  | queue => Config.read v "queue" Endpoint.standard.queue Value.asText
  | port => Config.read v "port" Endpoint.standard.port Value.asUInt16
  | vhost => Config.read v "vhost" Endpoint.standard.vhost Value.asText
  | url => Config.read v "url" Endpoint.standard.url (readOptional Value.asText)
  | durable => Config.read v "durable" Endpoint.standard.durable Value.asBool
  | prefetch => Config.read v "prefetch_count" Endpoint.standard.prefetch Value.asUInt16
  | command => Config.read v "command" Runbook.standard.command Value.asText
  | timeoutSeconds =>
    Config.read v "timeout_seconds" Runbook.standard.timeoutSeconds Value.asUInt64
  | workingDir =>
    Config.read v "working_dir" Runbook.standard.workingDir
      (readOptional fun v => v.asText.map Host.Path.ofText)
  | allowed => (readAllowed v).map tidy
  | pattern => Config.read v "service_pattern" Runbook.standard.pattern Value.asText
  | ackMode =>
    Config.read v "ack_mode" Runbook.standard.ackMode (Value.asChoice "AckMode" ackModes)

/-- What a text says of a setting. -/
def ofText (s : Setting) (t : String) : Except Settings.Error s.type :=
  s.read (.table [(s.name, s.part.value s.name t)])

variable {s : Setting} {v w : Value}

/-- A setting is read off one member. -/
theorem read_congr (h : v.member? s.name = w.member? s.name) : s.read v = s.read w := by
  cases s with
  | allowed =>
    have hallowed : v.member? "allowed_services" = w.member? "allowed_services" := h
    rw [read, read, readAllowed, readAllowed, hallowed]
  | _ => exact Config.read_congr h _ _

/-- A setting that is not there has its default. -/
theorem read_of_none (h : v.member? s.name = none) : s.read v = .ok (s.get standard) := by
  have hread : ∀ {α : Type} (d : α) (f : Value → Except Settings.Error α),
      Config.read v s.name d f = .ok d := by
    intro α d f
    rw [Config.read, h]
  cases s with
  | allowed =>
    have hallowed : v.member? "allowed_services" = none := h
    rw [read, readAllowed, hallowed]
    rfl
  | _ => exact hread _ _

end Setting

/-- **Variables describe a configuration if and only if each of its settings is read off its
section.** -/
theorem ofVariables_eq_ok_iff {vars : Variables} {c : Config} :
    ofVariables vars = .ok c ↔ ∀ s : Setting, s.read (s.part.collect vars) = .ok (s.get c) := by
  unfold ofVariables loadSection
  simp only [bind_eq_ok_iff, mapError_eq_ok_iff, Endpoint.ofSettings, Runbook.ofSettings, pure,
    Except.pure, Except.ok.injEq]
  constructor
  · rintro ⟨_, ⟨host, hhost, queue, hqueue, port, hport, vhost, hvhost, url, hurl, durable, hdurable,
      prefetch, hprefetch, rfl⟩, _, ⟨command, hcommand, timeout, htimeout, dir, hdir, allowed,
      hallowed, pattern, hpattern, mode, hmode, rfl⟩, rfl⟩ s
    cases s with
    | host => exact hhost
    | queue => exact hqueue
    | port => exact hport
    | vhost => exact hvhost
    | url => exact hurl
    | durable => exact hdurable
    | prefetch => exact hprefetch
    | command => exact hcommand
    | timeoutSeconds => exact htimeout
    | workingDir => exact hdir
    | allowed => exact map_eq_ok_iff.2 ⟨allowed, hallowed, rfl⟩
    | pattern => exact hpattern
    | ackMode => exact hmode
  · intro h
    obtain ⟨allowed, hallowed, htidy⟩ := map_eq_ok_iff.1 (h .allowed)
    refine ⟨c.endpoint, ⟨_, h .host, _, h .queue, _, h .port, _, h .vhost, _, h .url, _, h .durable,
      _, h .prefetch, rfl⟩, { c.runbook with allowed := allowed }, ⟨_, h .command, _,
      h .timeoutSeconds, _, h .workingDir, allowed, hallowed, _, h .pattern, _, h .ackMode, rfl⟩, ?_⟩
    rw [htidy]
    rfl

/-- Nothing but the members for settings matters, also where one cannot be read. -/
theorem ofVariables_congr {vars vars' : Variables}
    (h : ∀ s : Setting, (s.part.collect vars).member? s.name =
      (s.part.collect vars').member? s.name) :
    ofVariables vars = ofVariables vars' := by
  have hmember : ∀ (s : Setting) part name, s.part = part → s.name = name →
      (part.collect vars).member? name = (part.collect vars').member? name := by
    rintro s part name rfl rfl
    exact h s
  have hendpoint : Endpoint.ofSettings (endpointSection.collect vars) =
      Endpoint.ofSettings (endpointSection.collect vars') := by
    simp only [Endpoint.ofSettings]
    rw [read_congr (hmember .host endpointSection "host" rfl rfl),
      read_congr (hmember .queue endpointSection "queue" rfl rfl),
      read_congr (hmember .port endpointSection "port" rfl rfl),
      read_congr (hmember .vhost endpointSection "vhost" rfl rfl),
      read_congr (hmember .url endpointSection "url" rfl rfl),
      read_congr (hmember .durable endpointSection "durable" rfl rfl),
      read_congr (hmember .prefetch endpointSection "prefetch_count" rfl rfl)]
  have hrunbook : Runbook.ofSettings (runbookSection.collect vars) =
      Runbook.ofSettings (runbookSection.collect vars') := by
    simp only [Runbook.ofSettings, readAllowed]
    rw [read_congr (hmember .command runbookSection "command" rfl rfl),
      read_congr (hmember .timeoutSeconds runbookSection "timeout_seconds" rfl rfl),
      read_congr (hmember .workingDir runbookSection "working_dir" rfl rfl),
      hmember .allowed runbookSection "allowed_services" rfl rfl,
      read_congr (hmember .pattern runbookSection "service_pattern" rfl rfl),
      read_congr (hmember .ackMode runbookSection "ack_mode" rfl rfl)]
  unfold ofVariables loadSection
  rw [hendpoint, hrunbook]

/-! ### Variables -/

section
variable {vars vars' : Variables} {s : Setting} {t : String}

/-- What is left of plain variables: a port that is none is passed over. -/
theorem mem_dropServiceLink_iff (h : Plain vars) {v : String × String} :
    v ∈ (dropServiceLink vars).1 ↔ v ∈ vars ∧ (v.1 = portVariable → isPort v.2 = true) := by
  unfold dropServiceLink
  split
  · next n value hfind =>
    obtain ⟨hmem, hname⟩ := (h.find?_eq_some_iff portVariable (n, value)).1 hfind
    have hunique : v ∈ vars → v.1 = portVariable → v = (n, value) := fun hv hn =>
      h.eq_of_lowercase hv hmem (by rw [hn, hname])
    split
    · next hport =>
      refine ⟨fun hv => ⟨hv, fun hn => ?_⟩, fun hv => hv.1⟩
      rw [hunique hv hn]
      exact hport
    · next hport =>
      rw [List.mem_filter, bne_iff_ne]
      refine ⟨fun hv => ⟨hv.1, fun hn => absurd hn hv.2⟩, fun hv => ⟨hv.1, fun hn => hport ?_⟩⟩
      have hvalue := hv.2 hn
      rwa [hunique hv.1 hn] at hvalue
  · next hfind =>
    refine ⟨fun hv => ⟨hv, fun hn => ?_⟩, fun hv => hv.1⟩
    have hnone := List.find?_eq_none.1 hfind v hv
    exact absurd (beq_iff_eq.2 hn) hnone

/-- **The text that variables have for a setting:** that of the setting's variable, unless it is
empty, or the port that it should be is passed over. -/
def Gives (vars : Variables) (s : Setting) (t : String) : Prop :=
  t ≠ "" ∧ ∃ name, (name, t) ∈ vars ∧ Character.lowercase name = s.variableName ∧
    (name = portVariable → isPort t = true)

/-- Only a port may be passed over. -/
theorem gives_of_ne_port (hs : s ≠ .port) {name : String} (hmem : (name, t) ∈ vars)
    (hname : Character.lowercase name = s.variableName) (ht : t ≠ "") : Gives vars s t := by
  refine ⟨ht, name, hmem, hname, fun hport => absurd (Setting.eq_of_variableName ?_) hs⟩
  rw [← hname, hport]
  decide

/-- The text that a part sees is the one that the variables give. -/
theorem text?_dropServiceLink (h : Plain vars) :
    s.part.text? (dropServiceLink vars).1 s.name = some t ↔ Gives vars s t := by
  rw [(plain_dropServiceLink h).text?_eq_some_iff, Gives]
  simp only [mem_dropServiceLink_iff h, Section.setting?_eq_some_iff, ← Setting.variableName_eq]
  refine and_congr_right fun _ => exists_congr fun name => ?_
  constructor
  · rintro ⟨⟨hmem, hport⟩, hname⟩
    exact ⟨hmem, hname, hport⟩
  · rintro ⟨hmem, hname, hport⟩
    exact ⟨⟨hmem, hport⟩, hname⟩

/-- A text that is given is the value of the setting. -/
theorem member?_of_gives (h : Plain vars) (ht : Gives vars s t) :
    (s.part.collect (dropServiceLink vars).1).member? s.name = some (s.part.value s.name t) := by
  rw [Section.member?_collect (plain_dropServiceLink h).names, (text?_dropServiceLink h).2 ht]
  rfl

/-- **A setting is read off the text that the variables have for it.** -/
theorem member?_of_same (h : Plain vars) (h' : Plain vars')
    (hs : ∀ t, Gives vars s t ↔ Gives vars' s t) :
    (s.part.collect (dropServiceLink vars).1).member? s.name =
      (s.part.collect (dropServiceLink vars').1).member? s.name := by
  have htext : s.part.text? (dropServiceLink vars).1 s.name =
      s.part.text? (dropServiceLink vars').1 s.name := by
    refine Option.ext fun t => ?_
    rw [text?_dropServiceLink h, text?_dropServiceLink h', hs]
  rw [Section.member?_collect (plain_dropServiceLink h).names,
    Section.member?_collect (plain_dropServiceLink h').names, htext]

/-- A setting that nothing gives has no value. -/
theorem member?_of_none (h : Plain vars) (hs : ∀ t, ¬Gives vars s t) :
    (s.part.collect (dropServiceLink vars).1).member? s.name = none := by
  have htext : s.part.text? (dropServiceLink vars).1 s.name = none := by
    refine Option.eq_none_iff_forall_ne_some.2 fun t ht => ?_
    exact hs t ((text?_dropServiceLink h).1 ht)
  rw [Section.member?_collect (plain_dropServiceLink h).names, htext]
  rfl

/-! ### Loading -/

section
variable {isDirectory isDirectory' : Host.Path → Bool} {c c' : Config}

/-- Loads come to the same if the variables have the same texts. -/
theorem load_congr (h : Plain vars) (h' : Plain vars')
    (hs : ∀ s t, Gives vars s t ↔ Gives vars' s t) :
    (load isDirectory vars).1 = (load isDirectory vars').1 := by
  have hvars := ofVariables_congr fun s => member?_of_same h h' (hs s)
  rw [load_eq, load_eq, ← hvars]
  cases ofVariables (dropServiceLink vars).1 with
  | error e => rfl
  | ok c =>
    simp only
    cases c.validate isDirectory <;> rfl

/-- What has been loaded was read. -/
theorem read_of_load (hc : (load isDirectory vars).1 = .ok c) (s : Setting) :
    s.read (s.part.collect (dropServiceLink vars).1) = .ok (s.get c) :=
  ofVariables_eq_ok_iff.1 (load_eq_ok_iff.1 hc).1 s

/-- A setting that no variable has a text for has its default. -/
theorem get_of_none (h : Plain vars) (hc : (load isDirectory vars).1 = .ok c)
    (hs : ∀ t, ¬Gives vars s t) : s.get c = s.get standard := by
  have hread := read_of_load hc s
  rw [Setting.read_of_none (member?_of_none h hs)] at hread
  exact (Except.ok.inj hread).symm

/-- A setting is what the text for it says. -/
theorem ofText_of_gives (h : Plain vars) (hc : (load isDirectory vars).1 = .ok c)
    (ht : Gives vars s t) : s.ofText t = .ok (s.get c) := by
  have hmember : (Value.table [(s.name, s.part.value s.name t)]).member? s.name =
      some (s.part.value s.name t) := by
    simp [Value.member?]
  rw [Setting.ofText, ← read_of_load hc s]
  exact Setting.read_congr (hmember.trans (member?_of_gives h ht).symm)

/-- A setting is the same if the variables have the same text for it. -/
theorem get_congr (h : Plain vars) (h' : Plain vars') (hc : (load isDirectory vars).1 = .ok c)
    (hc' : (load isDirectory' vars').1 = .ok c') (hs : ∀ t, Gives vars s t ↔ Gives vars' s t) :
    s.get c' = s.get c := by
  have hread := read_of_load hc s
  rw [Setting.read_congr (member?_of_same h h' hs), read_of_load hc' s] at hread
  exact Except.ok.inj hread

end

/-! ### Locality -/

/-- Whether a variable does not count: it is for no setting, or it is empty. -/
def Idle (v : String × String) : Prop :=
  (∀ s : Setting, Character.lowercase v.1 ≠ s.variableName) ∨ v.2 = ""

/-- Idle variables can be left out: the others give the same. -/
theorem gives_of_sublist (hsub : vars'.Sublist vars) (hidle : ∀ v ∈ vars, v ∉ vars' → Idle v) :
    Gives vars' s t ↔ Gives vars s t := by
  refine and_congr_right fun hne => exists_congr fun name => ?_
  refine ⟨fun ⟨hmem, hname⟩ => ⟨hsub.subset hmem, hname⟩, fun ⟨hmem, hname⟩ => ⟨?_, hname⟩⟩
  by_contra hnot
  rcases hidle (name, t) hmem hnot with hnone | hempty
  · exact hnone s hname.1
  · exact hne hempty

/-- Two environments that share the variable of a setting have the same text for it. -/
theorem gives_of_mem (h : Plain vars) {name value : String} (hmem : (name, value) ∈ vars)
    (hname : Character.lowercase name = s.variableName) :
    Gives vars s t ↔ t = value ∧ t ≠ "" ∧ (name = portVariable → isPort t = true) := by
  constructor
  · rintro ⟨hne, n, hn, hlower, hport⟩
    have heq := h.eq_of_lowercase hn hmem (hlower.trans hname.symm)
    obtain ⟨rfl, rfl⟩ := Prod.mk.inj heq
    exact ⟨rfl, hne, hport⟩
  · rintro ⟨rfl, hne, hport⟩
    exact ⟨hne, name, hmem, hname, hport⟩

/-- **A text counts the same in every spelling of the variable,** unless it is the port's and no
port, and just one of the two spellings is the one that is passed over. -/
theorem gives_of_value (h : Plain vars) (h' : Plain vars') {name name' : String}
    (hmem : (name, t) ∈ vars) (hname : Character.lowercase name = s.variableName)
    (hmem' : (name', t) ∈ vars') (hname' : Character.lowercase name' = s.variableName)
    (hspelling : s = .port → isPort t = true ∨ (name' = portVariable ↔ name = portVariable))
    (u : String) : Gives vars s u ↔ Gives vars' s u := by
  have hpassed : ∀ n, Character.lowercase n = s.variableName → n = portVariable → s = .port := by
    rintro n hn rfl
    exact Setting.eq_of_variableName (hn.symm.trans (by decide))
  rw [gives_of_mem h hmem hname, gives_of_mem h' hmem' hname']
  refine and_congr_right fun hu => and_congr_right fun _ => ?_
  subst hu
  constructor
  · intro hkept hport
    rcases hspelling (hpassed name' hname' hport) with hnumber | hsame
    · exact hnumber
    · exact hkept (hsame.1 hport)
  · intro hkept hport
    rcases hspelling (hpassed name hname hport) with hnumber | hsame
    · exact hnumber
    · exact hkept (hsame.2 hport)

/-- A variable that is not for a setting does not matter to it, however it is spelled. -/
theorem gives_of_others {name : String}
    (hothers : ∀ other t, Character.lowercase other ≠ Character.lowercase name →
      ((other, t) ∈ vars' ↔ (other, t) ∈ vars))
    (hs : s.variableName ≠ Character.lowercase name) : Gives vars s t ↔ Gives vars' s t := by
  refine and_congr_right fun _ => exists_congr fun other => ?_
  constructor
  · rintro ⟨hmem, hname, hport⟩
    exact ⟨(hothers other t (hname ▸ hs)).2 hmem, hname, hport⟩
  · rintro ⟨hmem, hname, hport⟩
    exact ⟨(hothers other t (hname ▸ hs)).1 hmem, hname, hport⟩

/-- **Each setting depends on its own variable alone,** and on no more of it than its value, but
for the port.

Plain variables that are for no setting or empty may be left out, and the same comes of the load.
Of a configuration that has been loaded, a setting has its default if its variable is missing or
empty, and otherwise it is what the text says that the variable has.  A port is passed over if it
is no number and its variable is spelled `RABBITMQ_PORT`; then the port has its default too.  A
setting is the same wherever its variable has the same value, in whatever spelling, except that
for a port that is no number it counts whether that is the spelling.  Changing, adding or removing
one variable changes the setting that the variable is for, and no other.  The thirteen settings
are the configuration. -/
theorem settings_local {vars : Variables} (h : Plain vars) (isDirectory : Host.Path → Bool) :
    (∀ vars', vars'.Sublist vars → (∀ v ∈ vars, v ∉ vars' → Idle v) →
      (load isDirectory vars').1 = (load isDirectory vars).1) ∧
    (∀ c, (load isDirectory vars).1 = .ok c →
      (∀ s : Setting,
        (∀ name t, (name, t) ∈ vars → Character.lowercase name = s.variableName → t = "") →
          s.get c = s.get standard) ∧
      (∀ (s : Setting) name t, (name, t) ∈ vars → Character.lowercase name = s.variableName →
        t ≠ "" → (name = portVariable → isPort t = true) → s.ofText t = .ok (s.get c)) ∧
      (∀ t, (portVariable, t) ∈ vars → isPort t = false →
        c.endpoint.port = Endpoint.standard.port) ∧
      (∀ (s : Setting) name t, (name, t) ∈ vars → Character.lowercase name = s.variableName →
        ∀ isDirectory' vars' c' name', Plain vars' → (name', t) ∈ vars' →
          Character.lowercase name' = s.variableName →
          (s = .port → isPort t = true ∨ (name' = portVariable ↔ name = portVariable)) →
          (load isDirectory' vars').1 = .ok c' → s.get c' = s.get c) ∧
      ∀ (s : Setting) name, s.variableName ≠ Character.lowercase name →
        ∀ isDirectory' vars' c', Plain vars' →
          (∀ other t, Character.lowercase other ≠ Character.lowercase name →
            ((other, t) ∈ vars' ↔ (other, t) ∈ vars)) →
          (load isDirectory' vars').1 = .ok c' → s.get c' = s.get c) ∧
    (∀ s s' : Setting, s.variableName = s'.variableName → s = s') ∧
    ∀ c c' : Config, (∀ s : Setting, s.get c = s.get c') → c = c' := by
  refine ⟨fun vars' hsub hidle => ?_, fun c hc => ⟨fun s hempty => ?_, ?_, ?_, ?_, ?_⟩,
    fun s s' => Setting.eq_of_variableName, fun c c' => Setting.ext⟩
  · exact load_congr (h.of_sublist hsub) h fun s t => gives_of_sublist hsub hidle
  · refine get_of_none h hc ?_
    rintro t ⟨hne, name, hmem, hname, -⟩
    exact hne (hempty name t hmem hname)
  · intro s name t hmem hname hne hport
    exact ofText_of_gives h hc ⟨hne, name, hmem, hname, hport⟩
  · -- the one spelling that is passed over
    intro t hmem hport
    refine get_of_none (s := .port) h hc fun u hu => ?_
    obtain ⟨rfl, -, hkept⟩ := (gives_of_mem h hmem (by decide)).1 hu
    rw [hkept rfl] at hport
    cases hport
  · intro s name t hmem hname isDirectory' vars' c' name' h' hmem' hname' hspelling hc'
    exact get_congr h h' hc hc' (gives_of_value h h' hmem hname hmem' hname' hspelling)
  · intro s name hname isDirectory' vars' c' h' hothers hc'
    exact get_congr h h' hc hc' fun x => gives_of_others hothers hname

/-- **The port depends on how its variable is spelled:** the same value is the number one in one
spelling, and passed over in the other. -/
theorem port_of_other_spelling :
    let vars := [("rabbitmq_port", "true")]
    let vars' := [("RABBITMQ_PORT", "true")]
    Plain vars ∧ Plain vars' ∧
      Character.lowercase "rabbitmq_port" = Setting.port.variableName ∧
      Character.lowercase "RABBITMQ_PORT" = Setting.port.variableName ∧
      ∃ c c', (load (fun _ => true) vars).1 = .ok c ∧ (load (fun _ => true) vars').1 = .ok c' ∧
        c.endpoint.port = 1 ∧ c'.endpoint.port = 5672 := by
  intro vars vars'
  have hread : ofVariables (dropServiceLink vars).1 =
      .ok ⟨{ Endpoint.standard with port := 1 }, .standard⟩ := by decide +kernel
  have hread' : ofVariables (dropServiceLink vars').1 = .ok .standard := by decide +kernel
  exact ⟨⟨by decide, by decide⟩, ⟨by decide, by decide⟩, by decide, by decide, _, _,
    load_eq_ok_iff.2 ⟨hread, validate_of_standard rfl rfl (by decide) rfl rfl⟩,
    load_eq_ok_iff.2 ⟨hread', validate_standard _⟩, rfl, rfl⟩

/-- Variables of a service link, one for no setting, an empty one, and one in another spelling. -/
theorem settings_local_of_service_link :
    let vars := [("RABBITMQ_PORT", "tcp://10.0.0.7:5672"), ("RABBITMQ_MANAGEMENT_PORT", "15672"),
      ("RABBITMQ_QUEUE", "jobs"), ("RUNBOOK_COMMAND", ""), ("RUNBOOK_SERVICE_PATTERN", "[a-z]+")]
    let vars' := [("RABBITMQ_PORT", "tcp://10.0.0.7:5672"), ("RABBITMQ_QUEUE", "jobs"),
      ("RUNBOOK_SERVICE_PATTERN", "[a-z]+")]
    let respelled := [("Rabbitmq_Queue", "jobs"), ("RUNBOOK_SERVICE_PATTERN", "[a-z]+")]
    (load (fun _ => true) vars).1.isOk = true ∧ (load (fun _ => true) respelled).1.isOk = true ∧
      (load (fun _ => true) vars').1 = (load (fun _ => true) vars).1 ∧
      ∀ c, (load (fun _ => true) vars).1 = .ok c →
        c.runbook.command = Runbook.standard.command ∧ c.endpoint.port = Endpoint.standard.port ∧
        ∀ other, (load (fun _ => true) respelled).1 = .ok other →
          other.endpoint.queue = c.endpoint.queue := by
  intro vars vars' respelled
  have hplain : Plain vars := ⟨by decide, by decide⟩
  have hidle : ∀ v ∈ vars, v ∉ vars' → Idle v := by
    have hall : ∀ v ∈ vars, v ∉ vars' →
        (∀ s ∈ Setting.all, Character.lowercase v.1 ≠ s.variableName) ∨ v.2 = "" := by decide
    intro v hv hv'
    rcases hall v hv hv' with hnone | hempty
    · exact .inl fun s => hnone s s.mem_all
    · exact .inr hempty
  have hempty : ∀ name t, (name, t) ∈ vars →
      Character.lowercase name = Setting.command.variableName → t = "" := by
    have hall : ∀ v ∈ vars, Character.lowercase v.1 = Setting.command.variableName → v.2 = "" := by
      decide
    exact fun name t => hall (name, t)
  obtain ⟨hsame, hsettings, -, -⟩ := settings_local hplain fun _ => true
  refine ⟨by decide +kernel, by decide +kernel, hsame vars' (by decide) hidle, fun c hc => ?_⟩
  obtain ⟨hdefault, -, hport, hvalue, -⟩ := hsettings c hc
  exact ⟨hdefault .command hempty, hport "tcp://10.0.0.7:5672" (by decide) (by decide),
    fun other hother => hvalue .queue "RABBITMQ_QUEUE" "jobs" (by decide) (by decide) (fun _ => true)
      respelled other "Rabbitmq_Queue" ⟨by decide, by decide⟩ (by decide) (by decide)
      (fun hqueue => nomatch hqueue) hother⟩

end

end Config
end Remedy
