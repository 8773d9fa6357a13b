/-
# Configurations written and read

What is written of a configuration is read as that configuration (`ofJson?_toJson?`).  Each setting
has a member of its own, so that leaving some of them out puts those settings back to their
defaults, and what has another name is passed over (`document_read`).  What is shown is what would
be written if the URL were the redacted one (`sanitized_eq`).
-/

import Remedy.Proofs.Config.Texts
import Remedy.Proofs.Json.Editing
import Remedy.Proofs.Json.Printing
import Remedy.Config.Document

namespace Remedy

/-- A path is a text if and only if it consists of the bytes of that. -/
theorem Host.Path.text?_eq_some_iff {p : Path} {s : String} : p.text? = some s ↔ p = ofText s := by
  constructor
  · intro h
    obtain ⟨cs, hcs, rfl⟩ := Option.map_eq_some_iff.1 h
    rw [Text.Utf8.decode?, toOption_eq_some_iff] at hcs
    rw [ofText, String.toList_ofList, Text.Utf8.decode_eq_ok_iff.1 hcs]
  · rintro rfl
    exact text?_ofText s

namespace Config

/-! ### Single settings -/

/-- A number up to the limit is read as itself. -/
theorem nat?_nat {limit n : Nat} (h : n ≤ limit) : nat? limit (.nat n) = some n := by
  rw [Json.nat, nat?, if_pos ⟨Int.natCast_nonneg n, Int.ofNat_le.2 h⟩, Int.toNat_natCast]

/-- A number of 16 bits is read back. -/
theorem uInt16?_toNat (n : UInt16) : (nat? Text.maxU16 (.nat n.toNat)).map UInt16.ofNat = some n := by
  have hn : n.toNat ≤ Text.maxU16 := Nat.le_of_lt_succ n.toNat_lt
  rw [nat?_nat hn, Option.map_some, UInt16.ofNat_toNat]

/-- A number of 64 bits is read back. -/
theorem uInt64?_toNat (n : UInt64) : (nat? Text.maxU64 (.nat n.toNat)).map UInt64.ofNat = some n := by
  have hn : n.toNat ≤ Text.maxU64 := Nat.le_of_lt_succ n.toNat_lt
  rw [nat?_nat hn, Option.map_some, UInt64.ofNat_toNat]

/-- A list of texts is read back. -/
theorem texts?_texts (ss : List String) : texts? (.texts ss) = some ss := by
  rw [Json.texts, texts?]
  induction ss with
  | nil => rfl
  | cons s ss ih => rw [List.map_cons, List.mapM_cons, ih, text?]; rfl

/-- A working directory is written if and only if it is a text, and then read as itself. -/
theorem directory?_directoryJson? {dir : Option Host.Path} {j : Json}
    (h : directoryJson? dir = some j) :
    nullable? (fun j => (text? j).map Host.Path.ofText) j = some dir := by
  cases dir with
  | none =>
    cases h
    rfl
  | some dir =>
    obtain ⟨s, hs, rfl⟩ := Option.map_eq_some_iff.1 h
    rw [Host.Path.text?_eq_some_iff.1 hs]
    rfl

namespace Setting

/-- What is written for a setting, if it can be. -/
def toJson? (c : Config) : Setting → Option Json
  | host => some (.text c.endpoint.host)
  | queue => some (.text c.endpoint.queue)
  | port => some (.nat c.endpoint.port.toNat)
  | vhost => some (.text c.endpoint.vhost)
  | url => some (.ofOption .text c.endpoint.url)
  | durable => some (.bool c.endpoint.durable)
  | prefetch => some (.nat c.endpoint.prefetch.toNat)
  | command => some (.text c.runbook.command)
  | timeoutSeconds => some (.nat c.runbook.timeoutSeconds.toNat)
  | workingDir => directoryJson? c.runbook.workingDir
  | allowed => some (.texts c.runbook.allowed)
  | pattern => some (.text c.runbook.pattern)
  | ackMode => some (.text c.runbook.ackMode.text)

/-- How the member for a setting is read. -/
def ofJson? : (s : Setting) → Json → Option s.type
  | host | queue | vhost | command | pattern => Config.text?
  | port | prefetch => fun j => (nat? Text.maxU16 j).map UInt16.ofNat
  | url => nullable? Config.text?
  | durable => bool?
  | timeoutSeconds => fun j => (nat? Text.maxU64 j).map UInt64.ofNat
  | workingDir => nullable? fun j => (Config.text? j).map Host.Path.ofText
  | allowed => texts?
  | ackMode => ackMode?

/-- **A setting is read as it is written.** -/
theorem ofJson?_toJson? {c : Config} {s : Setting} {j : Json} (h : s.toJson? c = some j) :
    s.ofJson? j = some (s.get c) := by
  cases s with
  | workingDir => exact directory?_directoryJson? h
  | port | prefetch =>
    cases h
    exact uInt16?_toNat _
  | timeoutSeconds =>
    cases h
    exact uInt64?_toNat _
  | allowed =>
    cases h
    exact texts?_texts _
  | url =>
    cases h
    simp only [ofJson?, get]
    cases c.endpoint.url <;> rfl
  | ackMode =>
    cases h
    simp only [ofJson?, get]
    cases c.runbook.ackMode <;> rfl
  | _ =>
    cases h
    rfl

/-- Of what there is for each of the two parts, the one for the part that a setting belongs to. -/
def among {α : Type} (endpoint runbook : α) : Setting → α
  | host | queue | port | vhost | url | durable | prefetch => endpoint
  | command | timeoutSeconds | workingDir | allowed | pattern | ackMode => runbook

/-- The settings of the endpoint, in the order in which they are declared. -/
def endpointSettings : List Setting := [host, queue, port, vhost, url, durable, prefetch]

/-- The settings of the remediation, in the order in which they are declared. -/
def runbookSettings : List Setting := [command, timeoutSeconds, workingDir, allowed, pattern, ackMode]

section
variable {α : Type} {s : Setting}

/-- The settings of an endpoint are among the members of the endpoint. -/
theorem among_endpoint (h : s ∈ endpointSettings) (endpoint runbook : α) :
    s.among endpoint runbook = endpoint := by
  cases s <;> first | rfl | exact absurd h (by decide)

/-- The settings of a runbook are among the members of the runbook. -/
theorem among_runbook (h : s ∈ runbookSettings) (endpoint runbook : α) :
    s.among endpoint runbook = runbook := by
  cases s <;> first | rfl | exact absurd h (by decide)

end

/-- Settings may be chosen independently of each other. -/
theorem exists_forall_get_eq (value : (s : Setting) → s.type) :
    ∃ c : Config, ∀ s : Setting, s.get c = value s := by
  refine ⟨⟨⟨value host, value queue, value port, value vhost, value url, value durable,
    value prefetch⟩, ⟨value command, value timeoutSeconds, value workingDir, value allowed,
    value pattern, value ackMode⟩⟩, fun s => ?_⟩
  cases s <;> rfl

end Setting

/-! ### Documents -/

/-- The members of an endpoint. -/
def Endpoint.members (e : Endpoint) : List (String × Json) :=
  [("durable", .bool e.durable), ("host", .text e.host), ("port", .nat e.port.toNat),
    ("prefetch_count", .nat e.prefetch.toNat), ("queue", .text e.queue),
    ("url", .ofOption .text e.url), ("vhost", .text e.vhost)]

/-- The members of a remediation, with the working directory as it is written. -/
def Runbook.members (r : Runbook) (dir : Json) : List (String × Json) :=
  [("ack_mode", .text r.ackMode.text), ("allowed_services", .texts r.allowed),
    ("command", .text r.command), ("service_pattern", .text r.pattern),
    ("timeout_seconds", .nat r.timeoutSeconds.toNat), ("working_dir", dir)]

/-- A document with the members of the two parts. -/
def document (endpoint runbook : List (String × Json)) : Json :=
  .record [("broker", .record endpoint), ("runbook", .record runbook)]

variable {c c' : Config} {j dir : Json} {endpoint runbook : List (String × Json)}

/-- A configuration is written if and only if its working directory is. -/
theorem toJson?_eq (c : Config) : c.toJson? =
    (directoryJson? c.runbook.workingDir).map fun dir =>
      document c.endpoint.members (c.runbook.members dir) := by
  rw [toJson?, Runbook.toJson?]
  cases directoryJson? c.runbook.workingDir <;> rfl

/-- A configuration whose directory can be written is written with it. -/
theorem toJson?_of_directory (h : directoryJson? c.runbook.workingDir = some dir) :
    c.toJson? = some (document c.endpoint.members (c.runbook.members dir)) := by
  rw [toJson?_eq, h, Option.map_some]

/-- Only a directory that is no text keeps a configuration from being written. -/
theorem toJson?_eq_none_iff : c.toJson? = none ↔
    ∃ dir, c.runbook.workingDir = some dir ∧ ∀ s : String, dir ≠ .ofText s := by
  rw [toJson?_eq, Option.map_eq_none_iff]
  cases c.runbook.workingDir with
  | none =>
    refine iff_of_false (fun h => ?_) fun ⟨dir, h, _⟩ => ?_
    · cases h
    · cases h
  | some dir =>
    rw [directoryJson?, Option.map_eq_none_iff, Option.eq_none_iff_forall_ne_some]
    simp only [Option.some.injEq, exists_eq_left', ne_eq, Host.Path.text?_eq_some_iff]

/-- Each setting has its member. -/
theorem lookup_members (hdir : directoryJson? c.runbook.workingDir = some dir) (s : Setting) :
    ∃ v, Json.lookup (s.among c.endpoint.members (c.runbook.members dir)) s.name = some v ∧
      s.toJson? c = some v := by
  cases s with
  | workingDir => exact ⟨dir, rfl, hdir⟩
  | _ => exact ⟨_, rfl, rfl⟩

/-- The members of a record are read if and only if no known name is there twice. -/
theorem membersOf?_record_iff {names : List String} {members members' : List (String × Json)} :
    membersOf? names (.record members) = some members' ↔
      members = members' ∧ ∀ n ∈ names, (members.filter fun m => m.1 == n).length ≤ 1 := by
  simp only [membersOf?, Option.ite_none_right_eq_some, Option.some.injEq, List.all_eq_true,
    decide_eq_true_eq]
  exact and_comm

/-- The items of a list are read if and only if there are no more of them than names. -/
theorem membersOf?_list_iff {names : List String} {items : List Json}
    {members : List (String × Json)} :
    membersOf? names (.list items) = some members ↔
      items.length ≤ names.length ∧ names.zip items = members := by
  simp only [membersOf?, Option.ite_none_right_eq_some, Option.some.injEq]

/-- Members among which no known setting is there twice are read. -/
theorem membersOf?_record {known : List Setting} {members : List (String × Json)}
    (h : ∀ s ∈ known, (members.filter fun m => m.1 == s.name).length ≤ 1) :
    membersOf? (known.map Setting.name) (.record members) = some members :=
  membersOf?_record_iff.2 ⟨rfl, List.forall_mem_map.2 h⟩

/-- Whether a document has two values for the parts of a configuration: each once among the members
of a record, where others do not matter, or the two in a list and nothing else. -/
inductive Parts : Json → Json → Json → Prop
  | record {members others : List (String × Json)} {endpoint runbook : Json} :
    members.Perm (("broker", endpoint) :: ("runbook", runbook) :: others) →
    (∀ m ∈ others, m.1 ≠ "broker" ∧ m.1 ≠ "runbook") → Parts (.record members) endpoint runbook
  | list (endpoint runbook : Json) : Parts (.list [endpoint, runbook]) endpoint runbook

/-- A list has the two parts if and only if it is made of them. -/
theorem parts_list_iff {items : List Json} {e r : Json} :
    (∃ members, membersOf? ["broker", "runbook"] (.list items) = some members ∧
      Json.lookup members "broker" = some e ∧ Json.lookup members "runbook" = some r) ↔
    items = [e, r] := by
  simp only [membersOf?_list_iff]
  constructor
  · rintro ⟨_, ⟨hlength, rfl⟩, hbroker, hrunbook⟩
    match items, hlength with
    | [], _ => cases hbroker
    | [_], _ => cases hrunbook
    | [_, _], _ =>
      cases hbroker
      cases hrunbook
      rfl
  · rintro rfl
    exact ⟨_, ⟨Nat.le_refl 2, rfl⟩, rfl, rfl⟩

/-- **The parts are found if and only if each of them is there, and once.** -/
theorem membersOf?_parts_iff {e r : Json} :
    (∃ members, membersOf? ["broker", "runbook"] j = some members ∧
      Json.lookup members "broker" = some e ∧ Json.lookup members "runbook" = some r) ↔
    Parts j e r := by
  constructor
  · rintro ⟨members, hmembers, hbroker, hrunbook⟩
    match j with
    | .record ms =>
      obtain ⟨rfl, honce⟩ := membersOf?_record_iff.1 hmembers
      obtain ⟨others, hperm, hothers⟩ := Json.perm_pair_of_once (by decide)
        (honce "broker" (by decide)) (honce "runbook" (by decide))
        (Json.mem_of_lookup hbroker) (Json.mem_of_lookup hrunbook)
      exact .record hperm hothers
    | .list items =>
      obtain rfl := parts_list_iff.1 ⟨members, hmembers, hbroker, hrunbook⟩
      exact .list e r
    | .null | .bool _ | .int _ | .real _ _ | .text _ => cases hmembers
  · rintro (@⟨members, _, _, _, hperm, hothers⟩ | ⟨_, _⟩)
    · have hbroker := Json.lookup_of_perm_pair (by decide) hperm fun m hm => (hothers m hm).1
      have hrunbook := Json.lookup_of_perm_pair (by decide) (hperm.trans (.swap _ _ _))
        fun m hm => (hothers m hm).2
      have honce : ∀ n ∈ ["broker", "runbook"], (members.filter fun m => m.1 == n).length ≤ 1 :=
        List.forall_mem_cons.2 ⟨hbroker.2, List.forall_mem_singleton.2 hrunbook.2⟩
      exact ⟨_, membersOf?_record_iff.2 ⟨rfl, honce⟩, hbroker.1, hrunbook.1⟩
    · exact parts_list_iff.2 rfl

/-- A document that has been written has its two parts. -/
theorem parts_document (endpoint runbook : List (String × Json)) :
    Parts (document endpoint runbook) (.record endpoint) (.record runbook) :=
  .record (.refl _) fun _ hm => absurd hm List.not_mem_nil

/-- **A document is read if and only if it has the two parts and each of them is read.** -/
theorem ofJson?_eq_some_iff : ofJson? j = some c ↔
    ∃ e r, Parts j e r ∧ Endpoint.ofJson? e = some c.endpoint ∧
      Runbook.ofJson? r = some c.runbook := by
  simp only [ofJson?, Option.bind_eq_bind, Option.bind_eq_some_iff, pure, Option.some.injEq,
    ← membersOf?_parts_iff]
  constructor
  · rintro ⟨members, hmembers, _, ⟨e, he, hendpoint⟩, _, ⟨r, hr, hrunbook⟩, rfl⟩
    exact ⟨e, r, ⟨members, hmembers, he, hr⟩, hendpoint, hrunbook⟩
  · rintro ⟨e, r, ⟨members, hmembers, he, hr⟩, hendpoint, hrunbook⟩
    exact ⟨members, hmembers, _, ⟨e, he, hendpoint⟩, _, ⟨r, hr, hrunbook⟩, rfl⟩

/-- **A document is read if each setting is.** -/
theorem ofJson?_of_settings (hparts : Parts j (.record endpoint) (.record runbook))
    (honce : ∀ s : Setting, ((s.among endpoint runbook).filter fun m => m.1 == s.name).length ≤ 1)
    (h : ∀ s : Setting,
      setting (s.among endpoint runbook) s.name (s.get standard) s.ofJson? = some (s.get c)) :
    ofJson? j = some c := by
  have he : Endpoint.ofJson? (.record endpoint) = some c.endpoint := by
    have hmembers := membersOf?_record fun s (hs : s ∈ Setting.endpointSettings) =>
      Setting.among_endpoint hs endpoint runbook ▸ honce s
    simp only [Endpoint.ofJson?, Option.bind_eq_bind, Option.bind_eq_some_iff, pure,
      Option.some.injEq]
    exact ⟨endpoint, hmembers, _, h .host, _, h .queue, _, h .port, _, h .vhost, _, h .url,
      _, h .durable, _, h .prefetch, rfl⟩
  have hr : Runbook.ofJson? (.record runbook) = some c.runbook := by
    have hmembers := membersOf?_record fun s (hs : s ∈ Setting.runbookSettings) =>
      Setting.among_runbook hs endpoint runbook ▸ honce s
    simp only [Runbook.ofJson?, Option.bind_eq_bind, Option.bind_eq_some_iff, pure,
      Option.some.injEq]
    exact ⟨runbook, hmembers, _, h .command, _, h .timeoutSeconds, _, h .workingDir, _, h .allowed,
      _, h .pattern, _, h .ackMode, rfl⟩
  exact ofJson?_eq_some_iff.2 ⟨_, _, hparts, he, hr⟩

/-- What is read off members that have been edited: the same as before, or the default where the
member has been left out. -/
theorem setting_of_edited {members edited : List (String × Json)}
    (hnames : (members.map Prod.fst).Nodup) (hedited : Json.Edited members edited) {n : String}
    {v : Json} (hv : Json.lookup members n = some v) {α : Type} {f : Json → Option α} {a : α}
    (ha : f v = some a) (default : α) :
    setting edited n default f = some (if n ∈ edited.map Prod.fst then a else default) := by
  rw [setting, hedited.lookup_eq hnames (Json.mem_names_of_lookup hv), hv]
  by_cases hmem : n ∈ edited.map Prod.fst
  · rw [if_pos hmem, if_pos hmem]
    exact ha
  · rw [if_neg hmem, if_neg hmem]

/-- The names of an endpoint and of a remediation are different from each other. -/
theorem nodup_members (c : Config) (dir : Json) (s : Setting) :
    ((s.among c.endpoint.members (c.runbook.members dir)).map Prod.fst).Nodup := by
  have hendpoint : (c.endpoint.members.map Prod.fst).Nodup := by
    change ["durable", "host", "port", "prefetch_count", "queue", "url", "vhost"].Nodup
    decide
  have hrunbook : ((c.runbook.members dir).map Prod.fst).Nodup := by
    change ["ack_mode", "allowed_services", "command", "service_pattern", "timeout_seconds",
      "working_dir"].Nodup
    decide
  cases s <;> assumption

/-- **A document that has been edited is read:** a setting is what it was if its member is still
there, and has its default otherwise. -/
theorem exists_ofJson?_of_edited (hdir : directoryJson? c.runbook.workingDir = some dir)
    (hedited : Json.Edited c.endpoint.members endpoint)
    (hedited' : Json.Edited (c.runbook.members dir) runbook)
    (hparts : Parts j (.record endpoint) (.record runbook)) :
    ∃ c', ofJson? j = some c' ∧ ∀ s : Setting, s.get c' =
      if s.name ∈ (s.among endpoint runbook).map Prod.fst then s.get c else s.get standard := by
  obtain ⟨c', hc'⟩ := Setting.exists_forall_get_eq fun s =>
    if s.name ∈ (s.among endpoint runbook).map Prod.fst then s.get c else s.get standard
  have hpart : ∀ s : Setting, Json.Edited (s.among c.endpoint.members (c.runbook.members dir))
      (s.among endpoint runbook) := by
    intro s
    cases s <;> assumption
  refine ⟨c', ofJson?_of_settings hparts (fun s => ?_) fun s => ?_, hc'⟩
  · obtain ⟨v, hv, -⟩ := lookup_members hdir s
    exact (hpart s).length_filter_le (nodup_members c dir s) (Json.mem_names_of_lookup hv)
  · obtain ⟨v, hv, hwritten⟩ := lookup_members hdir s
    rw [hc', setting_of_edited (nodup_members c dir s) (hpart s) hv
      (Setting.ofJson?_toJson? hwritten)]

/-- **What is written of a configuration is read as that configuration.** -/
theorem ofJson?_toJson? (h : c.toJson? = some j) : ofJson? j = some c := by
  rw [toJson?_eq] at h
  obtain ⟨dir, hdir, rfl⟩ := Option.map_eq_some_iff.1 h
  obtain ⟨c', hread, hc'⟩ := exists_ofJson?_of_edited hdir (Json.edited_self _) (Json.edited_self _)
    (parts_document _ _)
  have hsame : c' = c := by
    refine Setting.ext fun s => ?_
    obtain ⟨v, hv, -⟩ := lookup_members hdir s
    rw [hc' s, if_pos (Json.mem_names_of_lookup hv)]
  rw [hread, hsame]

/-! ### What is shown -/

/-- The configuration that is shown: a URL is the redacted one. -/
def shown (c : Config) : Config :=
  { c with
    endpoint := { c.endpoint with url := c.endpoint.url.map fun _ => c.endpoint.redactedUri } }

/-- **What is shown is what would be written if the URL were the redacted one.** -/
theorem sanitized_eq (c : Config) : c.sanitized = c.shown.toJson := by
  obtain ⟨⟨host, queue, port, vhost, url, durable, prefetch⟩, runbook⟩ := c
  rw [sanitized, toJson, toJson, toJson?_eq, toJson?_eq, shown]
  simp only
  cases directoryJson? runbook.workingDir with
  | none => rfl
  | some dir => cases url <;> rfl

/-- Members are shown as they would be written, but for the URL. -/
theorem forall₂_members_shown (c : Config) :
    List.Forall₂ (fun m m' => m.1 = m'.1 ∧ (m.1 ≠ "url" → m.2 = m'.2)) c.endpoint.members
      c.shown.endpoint.members := by
  have hsame : ∀ m : String × Json, m.1 = m.1 ∧ (m.1 ≠ "url" → m.2 = m.2) :=
    fun m => ⟨rfl, fun _ => rfl⟩
  have hurl : ∀ v v' : Json, "url" = "url" ∧ ("url" ≠ "url" → v = v') :=
    fun v v' => ⟨rfl, fun h => absurd rfl h⟩
  exact .cons (hsame _) (.cons (hsame _) (.cons (hsame _) (.cons (hsame _) (.cons (hsame _)
    (.cons (hurl _ _) (.cons (hsame _) .nil))))))

/-- **Configurations as documents.**  A configuration is written unless its working directory is no
text; null is shown of one that is not.  What is written is read back from its text, and as that
configuration.  It has a record for each of the two parts, and members of those may be left out,
others put in, and all of them moved: what is read then has the settings whose members are still
there, and the defaults for the others.  The two parts themselves may not be left out, nor be there
twice.  What is shown is what is written with another URL at most, and it is read as the
configuration with the URL, if there is one, redacted. -/
theorem document_read (c : Config) :
    (c.toJson? = none ↔
      ∃ dir, c.runbook.workingDir = some dir ∧ ∀ s : String, dir ≠ .ofText s) ∧
    (c.toJson? = none → c.sanitized = .null) ∧
    (∀ j, (¬∃ endpoint runbook, Parts j endpoint runbook) → ofJson? j = none) ∧
    ∀ j, c.toJson? = some j → Json.read? j.compact = some j ∧ ofJson? j = some c ∧
      ∃ broker runbook,
        j = .record [("broker", .record broker), ("runbook", .record runbook)] ∧
        (∀ j' broker' runbook', Json.Edited broker broker' → Json.Edited runbook runbook' →
          Parts j' (.record broker') (.record runbook') →
          ∃ c', ofJson? j' = some c' ∧ ∀ s : Setting, s.get c' =
            if s.name ∈ (s.among broker' runbook').map Prod.fst then s.get c
            else s.get standard) ∧
        (∃ shown, c.sanitized =
            .record [("broker", .record shown), ("runbook", .record runbook)] ∧
          List.Forall₂ (fun m m' => m.1 = m'.1 ∧ (m.1 ≠ "url" → m.2 = m'.2)) broker shown) ∧
        ofJson? c.sanitized = some { c with endpoint := { c.endpoint with
          url := c.endpoint.url.map fun _ => c.endpoint.redactedUri } } := by
  refine ⟨toJson?_eq_none_iff, fun h => ?_, fun j h => ?_, fun j h =>
    ⟨Json.read?_compact j, ofJson?_toJson? h, ?_⟩⟩
  · rw [sanitized, toJson, h]
    rfl
  · refine Option.eq_none_iff_forall_ne_some.2 fun c' hread => ?_
    obtain ⟨e, r, hparts, -, -⟩ := ofJson?_eq_some_iff.1 hread
    exact h ⟨e, r, hparts⟩
  · rw [toJson?_eq] at h
    obtain ⟨dir, hdir, rfl⟩ := Option.map_eq_some_iff.1 h
    have hshown : c.shown.toJson? =
        some (document c.shown.endpoint.members (c.runbook.members dir)) :=
      toJson?_of_directory hdir
    have hsanitized :
        c.sanitized = document c.shown.endpoint.members (c.runbook.members dir) := by
      rw [sanitized_eq, toJson, hshown, Option.getD_some]
    refine ⟨c.endpoint.members, c.runbook.members dir, rfl,
      fun j' broker' runbook' => exists_ofJson?_of_edited hdir, ?_, ?_⟩
    · exact ⟨c.shown.endpoint.members, hsanitized, forall₂_members_shown c⟩
    · exact ofJson?_toJson? (hshown.trans (congrArg some hsanitized.symm))

/-- A document in which most members have been left out, others put in, and the parts moved; and
one of which a part has been left out. -/
theorem document_read_partial :
    let c : Config := ⟨{ Endpoint.standard with host := "mq", vhost := "ops", url := some "mq" },
      { Runbook.standard with allowed := ["web"], ackMode := .afterExecution }⟩
    let broker : List (String × Json) := [("colour", .list []), ("vhost", .text "ops")]
    let runbook : List (String × Json) := [("allowed_services", .texts ["web"])]
    c.toJson? ≠ none ∧
      ofJson? (.record [("runbook", .record runbook), ("owner", .null), ("broker", .record broker)]) =
        some ⟨{ Endpoint.standard with vhost := "ops" },
          { Runbook.standard with allowed := ["web"] }⟩ ∧
      ofJson? (.record [("runbook", .record runbook)]) = none := by
  intro c broker runbook
  have hwritten : c.toJson? = some (document c.endpoint.members (c.runbook.members .null)) := rfl
  obtain ⟨-, -, hnone, hsome⟩ := document_read c
  obtain ⟨-, -, members, members', hdocument, hread, -⟩ := hsome _ hwritten
  obtain ⟨rfl, rfl⟩ : c.endpoint.members = members ∧ c.runbook.members .null = members' := by
    simpa [document] using hdocument
  have hbroker : Json.Edited c.endpoint.members broker := by
    refine ⟨[("vhost", .text "ops")], [("colour", .list [])], ?_, ?_, List.Perm.swap _ _ _⟩
    · exact List.singleton_sublist.2 (by simp [Endpoint.members, c])
    · exact List.forall_mem_singleton.2 (by decide)
  have hrunbook : Json.Edited (c.runbook.members .null) runbook := by
    refine ⟨runbook, [], ?_, fun m hm => absurd hm List.not_mem_nil, List.Perm.refl _⟩
    exact List.singleton_sublist.2 (by simp [Runbook.members, c])
  have hparts : Parts (.record [("runbook", .record runbook), ("owner", .null),
      ("broker", .record broker)]) (.record broker) (.record runbook) := by
    have hunknown : ∀ m ∈ [("owner", Json.null)], m.1 ≠ "broker" ∧ m.1 ≠ "runbook" :=
      List.forall_mem_singleton.2 (by decide)
    exact .record (((List.Perm.swap _ _ _).cons _).trans (List.Perm.swap _ _ _)) hunknown
  obtain ⟨c', hc', hsettings⟩ := hread _ _ _ hbroker hrunbook hparts
  refine ⟨by rw [hwritten]; exact Option.some_ne_none _, hc'.trans (congrArg some ?_),
    hnone _ ?_⟩
  · refine Setting.ext fun s => (hsettings s).trans ?_
    cases s <;> rfl
  · rintro ⟨e, r, ⟨hperm, -⟩⟩
    exact absurd hperm.length_eq (by simp)

end Config
end Remedy
