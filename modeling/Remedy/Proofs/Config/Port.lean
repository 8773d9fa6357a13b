/-
# The port of the broker

A container platform sets `RABBITMQ_PORT` to an address wherever there is a service of that name.
What is no number of 16 bits is therefore passed over before the section is read, and what is one
is read as that number when its turn comes.  The two readers of the text differ, since the second
one takes words for numbers as well and reads up to 64 bits, but whatever the first one lets through
the second one takes for the same number (`asUInt16_of_spells`).  So the variable never keeps a
configuration from being loaded, and it decides the port and nothing else (`port_never_breaks`).
-/

import Remedy.Proofs.Config.Locality
import Remedy.Proofs.Text.Numeral

namespace Remedy

/-! ### Ports in sections -/

namespace Settings

variable {t : String} {n : Nat}

/-- A spelled number has no case. -/
theorem lowercase_of_spells (h : Text.Spells t.toList n) : Character.lowercase t = t := by
  have hchars : ∀ c ∈ t.toList, c.toNat < 0x80 ∧ c.toLower = c := by
    intro c hc
    rcases h.digit_or_plus c hc with hdigit | rfl
    · have hhigh := (Text.isDigit_bounds hdigit).2
      exact ⟨by omega, Text.toLower_of_isDigit hdigit⟩
    · decide
  have hsame : t.toList.map Char.toLower = t.toList :=
    (List.map_congr_left fun c hc => (hchars c hc).2).trans (List.map_id' _)
  rw [Character.lowercase, Character.lowerFrom_of_ascii fun c hc => (hchars c hc).1, hsame,
    String.ofList_toList]

/-- **A number of 16 bits is read as it is spelled,** where a port is needed. -/
theorem asUInt16_of_spells {port : UInt16} (h : Text.Spells t.toList port.toNat) :
    (Value.text t).asUInt16 = .ok port := by
  have hlt := port.toNat_lt
  have hread : Text.unsigned? Text.maxU64 t.toList = some port.toNat :=
    Text.unsigned?_eq_some_iff.2 ⟨h, by unfold Text.maxU64; omega⟩
  have hwords : ∀ words : List String,
      (∀ w ∈ words, Text.unsigned? Text.maxU64 w.toList = none) → ¬words.contains t = true := by
    intro words hwords hmem
    rw [hwords t (List.contains_iff_mem.1 hmem)] at hread
    cases hread
  have hnumber : (Value.text t).asUnsigned = .ok port.toNat := by
    unfold Value.asUnsigned
    simp only [lowercase_of_spells h]
    rw [if_neg (hwords _ (by decide)), if_neg (hwords _ (by decide)), hread]
  refine bind_eq_ok_iff.2 ⟨_, hnumber, ?_⟩
  rw [if_pos (by unfold Text.maxU16; omega), UInt16.ofNat_toNat]

/-- In what order plain variables come does not matter to whether they are plain. -/
theorem Plain.perm {vars vars' : Variables} (h : Plain vars) (hp : vars'.Perm vars) :
    Plain vars' where
  names v hv := h.names v (hp.mem_iff.1 hv)
  distinct := (hp.map _).nodup_iff.2 h.distinct

end Settings

namespace Config

open Settings (Plain Section Value Variables)

/-- A text is a port if it spells a number of 16 bits. -/
theorem isPort_iff {t : String} : isPort t = true ↔ ∃ port : UInt16, Text.Spells t.toList port.toNat := by
  rw [isPort, Option.isSome_iff_exists]
  constructor
  · rintro ⟨n, hn⟩
    obtain ⟨hspells, hle⟩ := Text.unsigned?_eq_some_iff.1 hn
    have hsame : (UInt16.ofNat n).toNat = n := UInt16.toNat_ofNat_of_lt' (Nat.lt_succ_of_le hle)
    exact ⟨UInt16.ofNat n, hsame.symm ▸ hspells⟩
  · rintro ⟨port, hport⟩
    exact ⟨_, Text.unsigned?_eq_some_iff.2 ⟨hport, Nat.le_of_lt_succ port.toNat_lt⟩⟩

/-- In what order plain variables come does not matter to what they describe. -/
theorem ofVariables_perm {vars vars' : Variables} (h : Plain vars) (hp : vars'.Perm vars) :
    ofVariables vars' = ofVariables vars := by
  have h' := h.perm hp
  refine ofVariables_congr fun s => ?_
  rw [Section.member?_collect h'.names, Section.member?_collect h.names,
    h'.text?_congr h fun name t _ => hp.mem_iff]

/-! ### Configurations that differ in their port -/

/-- An endpoint with another port. -/
def Endpoint.withPort (e : Endpoint) (port : UInt16) : Endpoint := { e with port := port }

/-- A configuration with another port. -/
def withPort (c : Config) (port : UInt16) : Config := { c with endpoint := c.endpoint.withPort port }

/-- Every port is valid. -/
theorem validate_withPort (c : Config) (port : UInt16) (isDirectory : Host.Path → Bool) :
    (c.withPort port).validate isDirectory = c.validate isDirectory := by
  have hendpoint : (c.withPort port).endpoint.validate = c.endpoint.validate := by
    unfold Endpoint.validate Endpoint.redactedUri Endpoint.uri withPort Endpoint.withPort
    cases c.endpoint.url <;> rfl
  rw [validate, hendpoint]
  rfl

/-- **Of an endpoint the port is what its setting says,** and nothing else depends on it. -/
theorem Endpoint.ofSettings_withPort {v w : Value} {port : UInt16}
    (hothers : ∀ name, name ≠ "port" → w.member? name = v.member? name)
    (hport : read w "port" Endpoint.standard.port Value.asUInt16 = .ok port)
    (hdefault : read v "port" Endpoint.standard.port Value.asUInt16 = .ok Endpoint.standard.port) :
    Endpoint.ofSettings w = (Endpoint.ofSettings v).map (·.withPort port) := by
  change _ = (fun e => e.withPort port) <$> Endpoint.ofSettings v
  simp only [Endpoint.ofSettings, hport, hdefault, map_bind, map_pure]
  rw [read_congr (hothers "host" (by decide)), read_congr (hothers "queue" (by decide)),
    read_congr (hothers "vhost" (by decide)), read_congr (hothers "url" (by decide)),
    read_congr (hothers "durable" (by decide)), read_congr (hothers "prefetch_count" (by decide))]
  rfl

/-! ### The variable for the port -/

section
variable {vars vars' : Variables} {v : String}

/-- The variable of the port is one of the endpoint's. -/
theorem setting?_port : endpointSection.setting? portVariable = some "port" := by decide

/-- The variable of the port is none of the runbook's. -/
theorem setting?_runbook_port : runbookSection.setting? portVariable = none := by decide

/-- What the variable for the port is not for does not depend on it. -/
theorem member?_of_ne_port (h : Plain ((portVariable, v) :: vars)) {s : Section} {n : String}
    (hn : s.setting? portVariable ≠ some n) :
    (s.collect ((portVariable, v) :: vars)).member? n = (s.collect vars).member? n := by
  have hrest := h.of_sublist (List.sublist_cons_self _ vars)
  have htext : s.text? ((portVariable, v) :: vars) n = s.text? vars n := by
    refine h.text?_congr hrest fun name t hs => ⟨fun hmem => ?_, List.mem_cons_of_mem _⟩
    rcases List.mem_cons.1 hmem with heq | hmem
    · rw [(Prod.mk.inj heq).1] at hs
      exact absurd hs hn
    · exact hmem
  rw [Section.member?_collect h.names, Section.member?_collect hrest.names, htext]

/-- A port that is given is the value of its setting. -/
theorem member?_port (h : Plain ((portVariable, v) :: vars)) (hv : v ≠ "") :
    (endpointSection.collect ((portVariable, v) :: vars)).member? "port" = some (.text v) := by
  have htext : endpointSection.text? ((portVariable, v) :: vars) "port" = some v :=
    h.text?_eq_some_iff.2 ⟨hv, portVariable, List.mem_cons_self, setting?_port⟩
  rw [Section.member?_collect h.names, htext]
  rfl

/-- No other variable is called like the one for the port, in whatever case. -/
theorem lowercase_ne_port (h : Plain ((portVariable, v) :: vars)) {w : String × String}
    (hw : w ∈ vars) : Character.lowercase w.1 ≠ Character.lowercase portVariable := by
  obtain ⟨hnot, -⟩ := List.nodup_cons.1 h.distinct
  exact fun heq => hnot (List.mem_map.2 ⟨w, hw, heq⟩)

/-- Without its variable the port has no value. -/
theorem member?_port_of_absent (h : Plain ((portVariable, v) :: vars)) :
    (endpointSection.collect vars).member? "port" = none := by
  have hrest := h.of_sublist (List.sublist_cons_self _ vars)
  have htext : endpointSection.text? vars "port" = none := by
    refine Option.eq_none_iff_forall_ne_some.2 fun t ht => ?_
    obtain ⟨-, name, hmem, hs⟩ := hrest.text?_eq_some_iff.1 ht
    refine lowercase_ne_port h hmem ?_
    rw [Section.setting?_eq_some_iff.1 hs, Section.setting?_eq_some_iff.1 setting?_port]
  rw [Section.member?_collect hrest.names, htext]
  rfl

/-- **A port among the variables decides the port of what they describe,** and nothing else. -/
theorem ofVariables_withPort (h : Plain ((portVariable, v) :: vars)) {port : UInt16}
    (hv : Text.Spells v.toList port.toNat) :
    ofVariables ((portVariable, v) :: vars) = (ofVariables vars).map (·.withPort port) := by
  have hne : v ≠ "" := by
    rintro rfl
    obtain ⟨ds, hds | hds, hnil, -⟩ := hv
    · exact hnil hds.symm
    · cases hds
  have hendpoint : Endpoint.ofSettings (endpointSection.collect ((portVariable, v) :: vars)) =
      (Endpoint.ofSettings (endpointSection.collect vars)).map (·.withPort port) := by
    refine Endpoint.ofSettings_withPort (fun name hname => member?_of_ne_port h ?_) ?_ ?_
    · rw [setting?_port]
      exact fun hs => hname (Option.some.inj hs).symm
    · rw [read, member?_port h hne]
      exact mapError_eq_ok_iff.2 (Settings.asUInt16_of_spells hv)
    · rw [read, member?_port_of_absent h]
  have hrunbook : Runbook.ofSettings (runbookSection.collect ((portVariable, v) :: vars)) =
      Runbook.ofSettings (runbookSection.collect vars) := by
    refine Runbook.ofSettings_congr fun name => member?_of_ne_port h ?_
    rw [setting?_runbook_port]
    exact Option.some_ne_none name ∘ Eq.symm
  unfold ofVariables loadSection
  rw [hendpoint, hrunbook]
  cases Endpoint.ofSettings (endpointSection.collect vars) with
  | error e => rfl
  | ok endpoint =>
    cases Runbook.ofSettings (runbookSection.collect vars) with
    | error e => rfl
    | ok runbook => rfl

/-- Without the variable nothing is passed over. -/
theorem dropServiceLink_of_absent (h : Plain ((portVariable, v) :: vars)) :
    dropServiceLink vars = (vars, []) := by
  have hfind : vars.find? (fun w => w.1 == portVariable) = none := by
    refine List.find?_eq_none.2 fun w hw hname => lowercase_ne_port h hw ?_
    rw [beq_iff_eq.1 hname]
  rw [dropServiceLink, hfind]

section
variable (h : Plain ((portVariable, v) :: vars)) (hp : vars'.Perm ((portVariable, v) :: vars))
include h hp

/-- The variable of the port is found by its name. -/
theorem find?_port : vars'.find? (fun w => w.1 == portVariable) = some (portVariable, v) :=
  ((h.perm hp).find?_eq_some_iff _ _).2 ⟨hp.mem_iff.2 List.mem_cons_self, rfl⟩

/-- A plain port stays among the variables, and nothing is told. -/
theorem dropServiceLink_of_isPort (hv : isPort v = true) : dropServiceLink vars' = (vars', []) := by
  rw [dropServiceLink, find?_port h hp]
  exact if_pos hv

/-- What is no port is passed over, with a warning. -/
theorem dropServiceLink_of_not_isPort (hv : ¬isPort v = true) :
    ∃ kept, kept.Perm vars ∧ dropServiceLink vars' = (kept, [portWarning v]) := by
  refine ⟨vars'.filter fun w => w.1 != portVariable, ?_, ?_⟩
  · have hothers : vars.filter (fun w => w.1 != portVariable) = vars := by
      refine List.filter_eq_self.2 fun w hw => bne_iff_ne.2 fun heq => lowercase_ne_port h hw ?_
      rw [heq]
    have hkept := hp.filter fun w => w.1 != portVariable
    rwa [List.filter_cons_of_neg (by simp), hothers] at hkept
  · rw [dropServiceLink, find?_port h hp]
    exact if_neg hv

end

/-! ### Loading -/

/-- A configuration that has been loaded is told of in another way than a port that is passed
over. -/
theorem loadedEvent_ne_portWarning (c : Config) (value : String) : loadedEvent c ≠ portWarning value := by
  intro h
  have hlevel := congrArg Log.Event.level h
  cases hlevel

/-- **The variable for the port never keeps a configuration from being loaded.**  Let there be plain
variables, of which none is called like it in whatever case, and the same with the variable among
them.  If its text spells a number of 16 bits, it is let through and taken for that number, the
load comes to the same but for the port, which is that number, and no warning is given.  If not, it
is passed over with one warning, and all else comes to the same.  Without the variable the port
is the default. -/
theorem port_never_breaks {vars vars' : Variables} {v : String} (h : Plain vars)
    (hothers : ∀ w ∈ vars, Character.lowercase w.1 ≠ Setting.port.variableName)
    (hp : vars'.Perm ((portVariable, v) :: vars)) (isDirectory : Host.Path → Bool) :
    (∀ port : UInt16, Text.Spells v.toList port.toNat →
      isPort v = true ∧ (Value.text v).asUInt16 = .ok port ∧
      (load isDirectory vars').1 = (load isDirectory vars).1.map (·.withPort port) ∧
      ∀ value, portWarning value ∉ (load isDirectory vars').2) ∧
    ((∀ port : UInt16, ¬Text.Spells v.toList port.toNat) →
      isPort v = false ∧
      load isDirectory vars' = ((load isDirectory vars).1, portWarning v :: (load isDirectory vars).2)) ∧
    ∀ c, (load isDirectory vars).1 = .ok c → c.endpoint.port = Endpoint.standard.port := by
  have hcons : Plain ((portVariable, v) :: vars) := by
    refine ⟨fun w hw => ?_, List.nodup_cons.2 ⟨fun hmem => ?_, h.distinct⟩⟩
    · rcases List.mem_cons.1 hw with rfl | hw
      · exact (by decide : Settings.isPlain portVariable = true)
      · exact h.names w hw
    · obtain ⟨w, hw, heq⟩ := List.mem_map.1 hmem
      have hname : Character.lowercase portVariable = Setting.port.variableName := by decide
      exact hothers w hw (heq.trans hname)
  have habsent := dropServiceLink_of_absent hcons
  refine ⟨fun port hport => ?_, fun hnone => ?_, fun c hc => ?_⟩
  · have hv : isPort v = true := isPort_iff.2 ⟨port, hport⟩
    have hvars : ofVariables vars' = (ofVariables vars).map (·.withPort port) :=
      (ofVariables_perm hcons hp).trans (ofVariables_withPort hcons hport)
    refine ⟨hv, Settings.asUInt16_of_spells hport, ?_⟩
    rw [load_eq, load_eq, dropServiceLink_of_isPort hcons hp hv, habsent, hvars]
    cases ofVariables vars with
    | error e => exact ⟨rfl, fun value => List.not_mem_nil⟩
    | ok c =>
      simp only [Except.map, validate_withPort]
      cases c.validate isDirectory with
      | error e => exact ⟨rfl, fun value => List.not_mem_nil⟩
      | ok _ =>
        refine ⟨rfl, fun value hmem => ?_⟩
        exact loadedEvent_ne_portWarning _ _ (List.mem_singleton.1 hmem).symm
  · have hv : ¬isPort v = true := fun hv => (isPort_iff.1 hv).elim hnone
    obtain ⟨kept, hkept, hdrop⟩ := dropServiceLink_of_not_isPort hcons hp hv
    refine ⟨Bool.eq_false_iff.2 hv, ?_⟩
    rw [load_eq, load_eq, hdrop, habsent, ofVariables_perm h hkept]
    cases ofVariables vars with
    | error e => rfl
    | ok c =>
      simp only
      cases c.validate isDirectory <;> rfl
  · have hport : (Setting.port.part.collect (dropServiceLink vars).1).member? Setting.port.name =
        none := by
      rw [habsent]
      exact member?_port_of_absent hcons
    have hread := read_of_load hc .port
    rw [Setting.read_of_none hport] at hread
    exact (Except.ok.inj hread).symm

/-- An address is passed over, also where nothing else is wrong, and a number with a plus and zeros
in front is not. -/
theorem port_never_breaks_of_service_link :
    let vars := [("RABBITMQ_PORT_5672_TCP_PORT", "5672"), ("RUNBOOK_SERVICE_PATTERN", "[a-z]+")]
    let linked := [("RABBITMQ_PORT_5672_TCP_PORT", "5672"), ("RABBITMQ_PORT", "tcp://10.0.0.7:5672"),
      ("RUNBOOK_SERVICE_PATTERN", "[a-z]+")]
    let numbered := [("RABBITMQ_PORT", "+0065535"), ("RABBITMQ_PORT_5672_TCP_PORT", "5672"),
      ("RUNBOOK_SERVICE_PATTERN", "[a-z]+")]
    (load (fun _ => true) vars).1.isOk = true ∧
      (load (fun _ => true) linked).1 = (load (fun _ => true) vars).1 ∧
      (load (fun _ => true) numbered).1 =
        (load (fun _ => true) vars).1.map (·.withPort 65535) := by
  intro vars linked numbered
  have hplain : Plain vars := ⟨by decide, by decide⟩
  have hothers : ∀ w ∈ vars, Character.lowercase w.1 ≠ Setting.port.variableName := by decide
  have hlink : linked.Perm ((portVariable, "tcp://10.0.0.7:5672") :: vars) := .swap _ _ _
  have hnumber : numbered.Perm ((portVariable, "+0065535") :: vars) := .refl _
  have hlinked := (port_never_breaks hplain hothers hlink fun _ => true).2.1
  have hnumbered := (port_never_breaks hplain hothers hnumber fun _ => true).1
  have hnone : ∀ port : UInt16, ¬Text.Spells "tcp://10.0.0.7:5672".toList port.toNat := by
    intro port hport
    have hread := isPort_iff.2 ⟨port, hport⟩
    exact absurd hread (by decide)
  refine ⟨by decide +kernel, ?_, ?_⟩
  · rw [(hlinked hnone).2]
  · have hspells : Text.Spells "+0065535".toList (65535 : UInt16).toNat :=
      ⟨"0065535".toList, .inr rfl, by decide, List.all_eq_true.1 (by decide), by decide⟩
    exact (hnumbered 65535 hspells).2.2.1

end

end Config
end Remedy
