/-
# Loading a configuration does not tell its credentials

Two environments that differ in the URL of the broker only differ in one setting of one
section (`DifferOnlyIn`), and so what is loaded from them differs in the URL only
(`ofVariables_withUrl`).  If the two URLs differ in their credentials only, both are
accepted or both are refused, and the same is told of it (`credentials_hidden`).
-/

import Remedy.Config.Load
import Remedy.Proofs.Config.Redaction
import Remedy.Proofs.Settings.Plain

namespace Remedy
namespace Config

open Settings (Plain Section Value Variables)

/-! ### Settings -/

section
variable {v w : Value}

/-- What is read depends on the setting's own value only. -/
theorem read_congr {α : Type} {name : String} (h : v.member? name = w.member? name) (default : α)
    (f : Value → Except Settings.Error α) : read v name default f = read w name default f := by
  rw [read, read, h]

/-- A remediation is described by the members of the settings. -/
theorem Runbook.ofSettings_congr (h : ∀ name, v.member? name = w.member? name) :
    Runbook.ofSettings v = Runbook.ofSettings w := by
  simp only [Runbook.ofSettings, readAllowed, read, h]

/-- **Of an endpoint the URL is what its setting says,** and nothing else depends on it. -/
theorem Endpoint.ofSettings_withUrl {url : String}
    (hothers : ∀ name, name ≠ "url" → v.member? name = w.member? name)
    (hurl : w.member? "url" = some (.text url)) (hv : ∃ url, v.member? "url" = some (.text url)) :
    Endpoint.ofSettings w = (Endpoint.ofSettings v).map (·.withUrl url) := by
  obtain ⟨old, hv⟩ := hv
  have hread : ∀ {url} {v : Value}, v.member? "url" = some (.text url) →
      read v "url" Endpoint.standard.url (readOptional Value.asText) = .ok (some url) := by
    intro url v h
    rw [read, h]
    rfl
  change _ = (fun e => e.withUrl url) <$> Endpoint.ofSettings v
  simp only [Endpoint.ofSettings, hread hurl, hread hv, map_bind, map_pure]
  rw [← read_congr (hothers "host" (by decide)), ← read_congr (hothers "queue" (by decide)),
    ← read_congr (hothers "port" (by decide)), ← read_congr (hothers "vhost" (by decide)),
    ← read_congr (hothers "durable" (by decide)),
    ← read_congr (hothers "prefetch_count" (by decide))]
  rfl

end

/-! ### Variables -/

/-- Whether two environments differ in nothing but the text of one variable.  The order of
the variables does not matter. -/
structure DifferOnlyIn (name a b : String) (vars vars' : Variables) : Prop where
  left : (name, a) ∈ vars
  right : (name, b) ∈ vars'
  others : ∀ other text, other ≠ name → ((other, text) ∈ vars ↔ (other, text) ∈ vars')

theorem start_endpointSection : endpointSection.start = "rabbitmq_" := by decide

theorem start_runbookSection : runbookSection.start = "runbook_" := by decide

section
variable {name a b : String} {vars vars' : Variables}

/-- The variable with the URL is for the URL, in the section about the broker. -/
theorem setting?_url (hname : Character.lowercase name = "rabbitmq_url") :
    endpointSection.setting? name = some "url" := by
  rw [Section.setting?_eq_some_iff, hname, start_endpointSection]
  decide

/-- The variable of the URL is none of the runbook's. -/
theorem setting?_runbook_url (hname : Character.lowercase name = "rabbitmq_url") (n : String) :
    runbookSection.setting? name ≠ some n := by
  rw [Ne, Section.setting?_eq_some_iff, hname, start_runbookSection, ← String.toList_inj]
  simp

section
variable (h : Plain vars) (h' : Plain vars') (hd : DifferOnlyIn name a b vars vars')
  (hname : Character.lowercase name = "rabbitmq_url")
include h h' hd

/-- Settings that the variable is not for are the same. -/
theorem member?_collect_of_ne {s : Section} {n : String} (hn : s.setting? name ≠ some n) :
    (s.collect vars).member? n = (s.collect vars').member? n := by
  rw [Section.member?_collect h.names, Section.member?_collect h'.names,
    h.text?_congr h' fun other text hs => hd.others other text fun heq => hn (heq ▸ hs)]

include hname

/-- **Variables that differ in a secret still do so without the port of a service link,** and the
same is told of both. -/
theorem dropServiceLink_differ :
    (dropServiceLink vars).2 = (dropServiceLink vars').2 ∧
      DifferOnlyIn name a b (dropServiceLink vars).1 (dropServiceLink vars').1 := by
  have hport : name ≠ portVariable := by
    rintro rfl
    exact absurd hname (by decide)
  have hfind : vars.find? (fun v => v.1 == portVariable) =
      vars'.find? (fun v => v.1 == portVariable) := by
    refine Option.ext fun v => ?_
    rw [h.find?_eq_some_iff, h'.find?_eq_some_iff]
    exact and_congr_left fun hv => hd.others v.1 v.2 fun heq => hport (heq ▸ hv)
  unfold dropServiceLink
  rw [hfind]
  split
  · next value _ =>
    split
    · exact ⟨rfl, hd⟩
    · refine ⟨rfl, List.mem_filter.2 ⟨hd.left, bne_iff_ne.2 hport⟩,
        List.mem_filter.2 ⟨hd.right, bne_iff_ne.2 hport⟩, fun other text hne => ?_⟩
      rw [List.mem_filter, List.mem_filter]
      exact and_congr_left fun _ => hd.others other text hne
  · exact ⟨rfl, hd⟩

end

/-- Plain variables stay plain. -/
theorem plain_dropServiceLink (h : Plain vars) : Plain (dropServiceLink vars).1 := by
  unfold dropServiceLink
  split
  · split
    · exact h
    · exact h.of_sublist List.filter_sublist
  · exact h

/-- The URL is what its variable says. -/
theorem member?_url (h : Plain vars) (hname : Character.lowercase name = "rabbitmq_url")
    (ha : a ≠ "") (hmem : (name, a) ∈ vars) :
    (endpointSection.collect vars).member? "url" = some (.text a) := by
  have htext : endpointSection.text? vars "url" = some a :=
    h.text?_eq_some_iff.2 ⟨ha, name, hmem, setting?_url hname⟩
  rw [Section.member?_collect h.names, htext]
  rfl

/-- **What is loaded differs in the URL only.** -/
theorem ofVariables_withUrl (h : Plain vars) (h' : Plain vars')
    (hd : DifferOnlyIn name a b vars vars') (hname : Character.lowercase name = "rabbitmq_url")
    (ha : a ≠ "") (hb : b ≠ "") :
    ofVariables vars' = (ofVariables vars).map (·.withUrl b) := by
  have hendpoint := Endpoint.ofSettings_withUrl
    (fun n hn => member?_collect_of_ne h h' hd (s := endpointSection) fun hs =>
      hn (Option.some.inj ((setting?_url hname).symm.trans hs)).symm)
    (member?_url h' hname hb hd.right) ⟨a, member?_url h hname ha hd.left⟩
  have hrunbook := Runbook.ofSettings_congr (v := runbookSection.collect vars)
    (w := runbookSection.collect vars') fun n =>
      member?_collect_of_ne h h' hd (setting?_runbook_url hname n)
  unfold ofVariables loadSection
  rw [hendpoint, ← hrunbook]
  cases Endpoint.ofSettings (endpointSection.collect vars) with
  | error e => rfl
  | ok endpoint =>
    cases Runbook.ofSettings (runbookSection.collect vars) with
    | error e => rfl
    | ok runbook => rfl

end

/-! ### Loading -/

/-- What a load comes to, by what the variables describe and whether that can be used. -/
theorem load_eq (isDirectory : Host.Path → Bool) (vars : Variables) :
    load isDirectory vars =
      match ofVariables (dropServiceLink vars).1 with
      | .error e => (.error e, (dropServiceLink vars).2)
      | .ok c =>
        match c.validate isDirectory with
        | .error e => (.error e, (dropServiceLink vars).2)
        | .ok _ => (.ok c, (dropServiceLink vars).2 ++ [loadedEvent c]) := by
  unfold load
  simp only
  cases ofVariables (dropServiceLink vars).1 with
  | error e => rfl
  | ok c =>
    simp only [bind, Except.bind]
    cases c.validate isDirectory <;> rfl

/-- A configuration is loaded if and only if variables describe it and it can be used. -/
theorem load_eq_ok_iff {isDirectory : Host.Path → Bool} {vars : Variables} {c : Config} :
    (load isDirectory vars).1 = .ok c ↔
      ofVariables (dropServiceLink vars).1 = .ok c ∧ c.validate isDirectory = .ok () := by
  rw [load_eq]
  cases ofVariables (dropServiceLink vars).1 with
  | error e => simp
  | ok d =>
    simp only [Except.ok.injEq]
    cases hd : d.validate isDirectory with
    | error e =>
      constructor
      · intro h
        cases h
      · rintro ⟨rfl, h⟩
        rw [hd] at h
        cases h
    | ok _ =>
      constructor
      · intro h
        cases h
        exact ⟨rfl, hd⟩
      · rintro ⟨rfl, -⟩
        rfl

/-- **How two loads compare that differ in the credentials:** both fail for the same reason, or
both succeed with configurations that differ in the URL only; either way the same is told. -/
def Alike (a b : String) (x y : Except Error Config × List Log.Event) : Prop :=
  x.2 = y.2 ∧ ((∃ e, x.1 = .error e ∧ y.1 = .error e) ∨
    ∃ c, x.1 = .ok (withUrl c a) ∧ y.1 = .ok (withUrl c b))

/-- **Loads are alike if the URLs are checked alike and shown alike.** -/
theorem alike_load {name a b : String} {vars vars' : Variables} (h : Plain vars) (h' : Plain vars')
    (hd : DifferOnlyIn name a b vars vars') (hname : Character.lowercase name = "rabbitmq_url")
    (ha : a ≠ "") (hb : b ≠ "") (isDirectory : Host.Path → Bool)
    (hvalidate : ∀ c, (withUrl c a).validate isDirectory = (withUrl c b).validate isDirectory)
    (hsanitized : ∀ c, (withUrl c a).sanitized = (withUrl c b).sanitized) :
    Alike a b (load isDirectory vars) (load isDirectory vars') := by
  obtain ⟨hwarnings, hdropped⟩ := dropServiceLink_differ h h' hd hname
  -- both loads are compared with the first one, where the URL is put in once more
  have hsame : DifferOnlyIn name a a (dropServiceLink vars).1 (dropServiceLink vars).1 :=
    ⟨hdropped.left, hdropped.left, fun _ _ _ => Iff.rfl⟩
  have hplain := plain_dropServiceLink h
  have hleft := ofVariables_withUrl hplain hplain hsame hname ha ha
  have hright := ofVariables_withUrl hplain (plain_dropServiceLink h') hdropped hname ha hb
  rw [load_eq, load_eq, hright, ← hwarnings, hleft]
  cases ofVariables (dropServiceLink vars).1 with
  | error e => exact ⟨rfl, .inl ⟨e, rfl, rfl⟩⟩
  | ok c =>
    have hevent : loadedEvent (withUrl c a) = loadedEvent (withUrl c b) := by
      rw [loadedEvent, loadedEvent, hsanitized]
    have htwice : withUrl (withUrl c a) b = withUrl c b := rfl
    simp only [Except.map, htwice, hvalidate c]
    cases (withUrl c b).validate isDirectory with
    | error e => exact ⟨rfl, .inl ⟨e, rfl, rfl⟩⟩
    | ok _ => exact ⟨by rw [hevent], .inr ⟨c, rfl, rfl⟩⟩

/-- **The credentials are hidden,** also if they hold the very marks that redaction looks for.
Two configurations that differ in the credentials of their URL only are shown alike and
validated alike, what is redacted is not changed by redacting it again, and from two
environments with plain variables that differ in these credentials only, configurations
are loaded that differ in their URL only, or none from either for the same reason, and the
same is told. -/
theorem credentials_hidden {scheme host : String}
    (hs : EndsWithFirst Endpoint.schemeEnd scheme.toList) (hh : '@' ∉ host.toList)
    (u u' : String) :
    let a := urlWith scheme u host
    let b := urlWith scheme u' host
    (∀ c : Config, (c.withUrl a).endpoint.redactedUri = scheme ++ "***@" ++ host ∧
      (c.withUrl b).endpoint.redactedUri = scheme ++ "***@" ++ host ∧
      (c.withUrl (scheme ++ "***@" ++ host)).endpoint.redactedUri = scheme ++ "***@" ++ host ∧
      (c.withUrl a).sanitized = (c.withUrl b).sanitized ∧
      ∀ isDirectory, (c.withUrl a).validate isDirectory = (c.withUrl b).validate isDirectory) ∧
    ∀ isDirectory name vars vars', Character.lowercase name = "rabbitmq_url" → Plain vars →
      Plain vars' → DifferOnlyIn name a b vars vars' →
      Alike a b (load isDirectory vars) (load isDirectory vars') := by
  intro a b
  have hagain : Endpoint.redact (scheme ++ "***@" ++ host) = scheme ++ "***@" ++ host := by
    rw [← redact_credentials hs hh u, redact_redact hs hh]
  have hne : ∀ u, urlWith scheme u host ≠ "" := by
    intro u hu
    have hlist := congrArg String.toList hu
    simp [urlWith] at hlist
  refine ⟨fun c => ⟨redact_credentials hs hh u, redact_credentials hs hh u', hagain,
    sanitized_withUrl hs hh c u u', fun isDirectory => validate_withUrl hs hh isDirectory c u u'⟩,
    fun isDirectory name vars vars' hname h h' hd => ?_⟩
  exact alike_load h h' hd hname (hne u) (hne u') isDirectory
    (fun c => validate_withUrl hs hh isDirectory c u u') (fun c => sanitized_withUrl hs hh c u u')

/-- A password with marks in it, and no credentials at all. -/
theorem credentials_hidden_of_marks :
    let a := urlWith "amqp://" "ops:a@b://c/d" "mq:5672/prod"
    let b := urlWith "amqp://" "" "mq:5672/prod"
    let vars := [("RABBITMQ_URL", a), ("RUNBOOK_SERVICE_PATTERN", "[a-z]+")]
    let vars' := [("RUNBOOK_SERVICE_PATTERN", "[a-z]+"), ("RABBITMQ_URL", b)]
    (Config.standard.withUrl a).endpoint.redactedUri = "amqp://***@mq:5672/prod" ∧
      (load (fun _ => true) vars).1.isOk = true ∧
      Alike a b (load (fun _ => true) vars) (load (fun _ => true) vars') := by
  intro a b vars vars'
  have hs : EndsWithFirst Endpoint.schemeEnd "amqp://".toList :=
    endsWithFirst_of_occurs (by decide) (by decide)
  have hh : '@' ∉ "mq:5672/prod".toList := by decide
  have hplain : Plain vars := ⟨by decide, by decide⟩
  have hplain' : Plain vars' := ⟨by decide, by decide⟩
  have hd : DifferOnlyIn "RABBITMQ_URL" a b vars vars' := by
    refine ⟨List.mem_cons_self .., List.mem_cons_of_mem _ (List.mem_cons_self ..), ?_⟩
    intro other text hne
    simp [vars, vars', hne]
  obtain ⟨hshown, hloads⟩ := credentials_hidden hs hh "ops:a@b://c/d" ""
  exact ⟨(hshown Config.standard).1, by decide +kernel,
    hloads (fun _ => true) _ _ _ (by decide) hplain hplain' hd⟩

end Config
end Remedy
