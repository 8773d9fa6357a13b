/-
# What is told about a URL that is refused

A URL that begins with no admissible scheme is refused, and the message shows what redaction leaves
of it.  Redaction goes by the end of a scheme.  So it hides the credentials in a URL with a scheme
that is not admissible, and in one without any scheme it finds nothing to hide: the message of such
a URL holds the user and the password as they were given, and it is a different one for each
(`refusal_shows`, `refusal_shows_password`).
-/

import Remedy.Proofs.Config.Building

namespace Remedy
namespace Config

/-! ### Errors and the variables they name -/

/-- What an error is about: a section, or a variable. -/
def Error.subject : Error → String
  | load part _ => part
  | missing field _ => field
  | invalid field _ _ => field

/-- What is told about a URL that begins with no admissible scheme. -/
def schemeError (shown : String) : Error :=
  .invalid "RABBITMQ_URL" shown "expected an amqp:// or amqps:// URI"

/-- Messages about such URLs are the same if and only if they show the same. -/
theorem message_schemeError_iff {shown shown' : String} :
    (schemeError shown).message = (schemeError shown').message ↔ shown = shown' := by
  have hmessage : ∀ s, (schemeError s).message = "Invalid value '" ++ s ++ "' for field '" ++
      "RABBITMQ_URL" ++ "': " ++ "expected an amqp:// or amqps:// URI" := fun _ => rfl
  rw [hmessage, hmessage, String.append_left_inj, String.append_left_inj, String.append_left_inj,
    String.append_left_inj, String.append_right_inj]

/-- **What is wrong with a remediation is said of a variable for it.** -/
theorem Runbook.subject_of_validate {r : Runbook} {isDirectory : Host.Path → Bool} {e : Error}
    (h : r.validate isDirectory = .error e) :
    e.subject ∈ ["RUNBOOK_COMMAND", "RUNBOOK_TIMEOUT_SECONDS", "RUNBOOK_SERVICE_PATTERN",
      "RUNBOOK_WORKING_DIR"] := by
  cases hcommand : Text.isAllBlank r.command with
  | true =>
    simp only [validate, requireText, hcommand, if_true] at h
    cases h
    decide
  | false =>
    by_cases htimeout : r.timeoutSeconds = 0
    · simp only [validate, requireText, hcommand, htimeout, if_true] at h
      cases h
      decide
    · rw [validate_of_command hcommand htimeout] at h
      cases hp : Pattern.compile r.pattern with
      | error refusal =>
        rw [validatePattern_of_error hp] at h
        cases h
        simp [patternError, Error.subject]
      | ok p =>
        rw [validatePattern_of_ok hp] at h
        change validateDirectory isDirectory r.workingDir = .error e at h
        unfold validateDirectory at h
        split at h
        · cases h
        · split at h
          · cases h
          · cases h
            simp [Error.subject]

/-! ### Refusing a URL -/

/-- Whether a URL begins with no admissible scheme. -/
theorem hasScheme_eq_false_iff {url : String} :
    hasScheme url = false ↔ ¬"amqp://".toList <+: url.toList ∧ ¬"amqps://".toList <+: url.toList := by
  rw [hasScheme, schemes, List.any_eq_false]
  simp [List.isPrefixOf_iff_prefix]

/-- **When a URL is refused for its scheme:** nothing that is looked at before is wrong, and the URL
begins with no admissible scheme.  It is shown redacted. -/
theorem validate_eq_schemeError_iff {c : Config} {isDirectory : Host.Path → Bool}
    {url shown : String} :
    (c.withUrl url).validate isDirectory = .error (schemeError shown) ↔
      Text.isAllBlank c.endpoint.queue = false ∧ c.endpoint.prefetch ≠ 0 ∧ hasScheme url = false ∧
        Endpoint.redact url = shown := by
  have hrunbook : (c.withUrl url).runbook.validate isDirectory ≠ .error (schemeError shown) := by
    intro h
    have hsubject := Runbook.subject_of_validate h
    simp [schemeError, Error.subject] at hsubject
  have hendpoint : (c.withUrl url).endpoint.validate =
      if Text.isAllBlank c.endpoint.queue then .error (.missing "RABBITMQ_QUEUE" "broker endpoint")
      else if c.endpoint.prefetch = 0 then
        .error (.invalid "RABBITMQ_PREFETCH_COUNT" "0"
          "prefetch of 0 means unlimited deliveries in flight")
      else if hasScheme url then .ok () else .error (schemeError (Endpoint.redact url)) := by
    unfold Endpoint.validate requireText
    cases hqueue : Text.isAllBlank c.endpoint.queue with
    | true =>
      simp only [withUrl, Endpoint.withUrl, hqueue, if_true]
      rfl
    | false =>
      simp only [withUrl, Endpoint.withUrl, hqueue]
      rfl
  rw [validate, hendpoint]
  split
  · next hqueue => simp [hqueue, schemeError, bind, Except.bind]
  · next hqueue =>
    split
    · next hprefetch => simp [hprefetch, schemeError, bind, Except.bind]
    · next hprefetch =>
      split
      · next hscheme =>
        rw [hscheme]
        exact iff_of_false hrunbook fun h => Bool.noConfusion h.2.2.1
      · next hscheme =>
        simp [hqueue, hprefetch, hscheme, schemeError, bind, Except.bind]

/-! ### Redaction without a scheme -/

/-- Nothing comes after a mark that is not there. -/
theorem Endpoint.afterMark_of_not_infix {mark cs : List Char} (h : ¬mark <:+: cs) :
    afterMark mark cs = none := by
  induction cs with
  | nil => rfl
  | cons c cs ih =>
    have hhead : ¬mark.isPrefixOf (c :: cs) = true := fun hp =>
      h (List.isPrefixOf_iff_prefix.1 hp).isInfix
    rw [afterMark, if_neg hhead, ih fun hrest => h (List.infix_cons_iff.2 (.inr hrest))]
    rfl

/-- A text in which no scheme ends is not redacted at all. -/
theorem redact_of_not_infix {url : String} (h : ¬Endpoint.schemeEnd <:+: url.toList) :
    Endpoint.redact url = url := by
  rw [Endpoint.redact, Endpoint.afterMark_of_not_infix h]

/-- **Without a scheme nothing is hidden.** -/
theorem redact_without_scheme {u host : String} (hu : ¬Endpoint.schemeEnd <:+: u.toList)
    (hh : ¬Endpoint.schemeEnd <:+: host.toList) :
    Endpoint.redact (urlWith "" u host) = u ++ "@" ++ host := by
  have hurl : urlWith "" u host = u ++ "@" ++ host := by
    rw [urlWith, String.empty_append]
  rw [hurl]
  refine redact_of_not_infix fun hmark => ?_
  have hlist : (u ++ "@" ++ host).toList = u.toList ++ '@' :: host.toList := by simp
  rw [hlist] at hmark
  exact (Text.infix_of_infix_append_cons (by decide) hmark).elim hu hh

/-- **What the message about a refused URL shows.**  A URL is refused for its scheme if and only if
it begins with neither of the two, and the queue and the deliveries under way are as they should be.
Let there be credentials `u`, and others, in which no scheme ends, before the last `@` of a URL.  If
they follow a scheme, the message shows stars in their place, whatever they are.  If they follow
nothing, it shows them.  So the two are told of in the same way if and only if there is a scheme,
or they are the same. -/
theorem refusal_shows {scheme host u u' : String}
    (hs : scheme = "" ∨ EndsWithFirst Endpoint.schemeEnd scheme.toList) (hh : '@' ∉ host.toList)
    (hmark : ¬Endpoint.schemeEnd <:+: host.toList) (hu : ¬Endpoint.schemeEnd <:+: u.toList)
    (hu' : ¬Endpoint.schemeEnd <:+: u'.toList) (c : Config) (isDirectory : Host.Path → Bool) :
    (∀ url, (∃ shown, (c.withUrl url).validate isDirectory = .error (schemeError shown)) ↔
      (∃ x ∈ c.endpoint.queue.toList, Text.isBlank x = false) ∧ c.endpoint.prefetch ≠ 0 ∧
        ¬"amqp://".toList <+: url.toList ∧ ¬"amqps://".toList <+: url.toList) ∧
    ∀ shown shown',
      (c.withUrl (urlWith scheme u host)).validate isDirectory = .error (schemeError shown) →
      (c.withUrl (urlWith scheme u' host)).validate isDirectory = .error (schemeError shown') →
      (scheme ≠ "" → shown = scheme ++ "***@" ++ host ∧ shown' = scheme ++ "***@" ++ host) ∧
      (scheme = "" → shown = u ++ "@" ++ host ∧ shown' = u' ++ "@" ++ host) ∧
      ((schemeError shown).message = (schemeError shown').message ↔ scheme ≠ "" ∨ u = u') := by
  refine ⟨fun url => ?_, fun shown shown' h h' => ?_⟩
  · simp only [validate_eq_schemeError_iff, exists_and_left, exists_eq', and_true,
      hasScheme_eq_false_iff, Text.isAllBlank, List.all_eq_false, Bool.not_eq_true]
  · obtain ⟨-, -, -, rfl⟩ := validate_eq_schemeError_iff.1 h
    obtain ⟨-, -, -, rfl⟩ := validate_eq_schemeError_iff.1 h'
    rw [message_schemeError_iff]
    rcases hs with rfl | hs
    · rw [redact_without_scheme hu hmark, redact_without_scheme hu' hmark]
      refine ⟨fun hne => absurd rfl hne, fun _ => ⟨rfl, rfl⟩, ?_⟩
      rw [or_iff_right (fun hne => hne rfl), String.append_left_inj, String.append_left_inj]
    · have hne : scheme ≠ "" := by
        rintro rfl
        exact absurd (List.suffix_nil.1 hs.ends) (by decide)
      rw [redact_credentials hs hh u, redact_credentials hs hh u']
      exact ⟨fun _ => ⟨rfl, rfl⟩, fun heq => absurd heq hne, iff_of_true rfl (.inl hne)⟩

/-- **A password that is shown:** in a URL that lacks its scheme. -/
theorem refusal_shows_password :
    let a := urlWith "" "ops:secret" "mq:5672"
    let b := urlWith "" "***" "mq:5672"
    let told (url : String) := (Config.standard.withUrl url).validate fun _ => true
    '@' ∉ "mq:5672".toList ∧ ¬Endpoint.schemeEnd <:+: "mq:5672".toList ∧
      ¬Endpoint.schemeEnd <:+: "ops:secret".toList ∧ ¬Endpoint.schemeEnd <:+: "***".toList ∧
      ∃ e e', told a = .error e ∧ told b = .error e' ∧
        e.message = "Invalid value 'ops:secret@mq:5672' for field 'RABBITMQ_URL': " ++
          "expected an amqp:// or amqps:// URI" ∧
        e.message ≠ e'.message := by
  intro a b told
  refine ⟨by decide, by decide, by decide, by decide, schemeError "ops:secret@mq:5672",
    schemeError "***@mq:5672", ?_, ?_, rfl, ?_⟩
  · exact validate_eq_schemeError_iff.2 ⟨by decide, by decide, by decide, by decide⟩
  · exact validate_eq_schemeError_iff.2 ⟨by decide, by decide, by decide, by decide⟩
  · rw [Ne, message_schemeError_iff]
    decide

/-- A scheme of another kind, and none. -/
theorem refusal_shows_of_web :
    let shown (scheme u : String) (e : Error) :=
      (Config.standard.withUrl (urlWith scheme u "mq")).validate (fun _ => true) = .error e
    (∃ e, shown "http://" "ops:a@b" e ∧ shown "http://" "x" e) ∧
      ∃ e e', shown "" "ops:a@b" e ∧ shown "" "x" e' ∧ e.message ≠ e'.message := by
  intro shown
  have hs : EndsWithFirst Endpoint.schemeEnd "http://".toList :=
    endsWithFirst_of_occurs (by decide) (by decide)
  have hrefused : ∀ scheme u, hasScheme (urlWith scheme u "mq") = false →
      shown scheme u (schemeError (Endpoint.redact (urlWith scheme u "mq"))) := fun scheme u h =>
    validate_eq_schemeError_iff.2 ⟨by decide, by decide, h, rfl⟩
  have ha := hrefused "http://" "ops:a@b" (by decide)
  have hb := hrefused "http://" "x" (by decide)
  have ha' := hrefused "" "ops:a@b" (by decide)
  have hb' := hrefused "" "x" (by decide)
  obtain ⟨hstars, hstars'⟩ := ((refusal_shows (.inr hs) (by decide) (by decide) (by decide)
    (by decide) Config.standard fun _ => true).2 _ _ ha hb).1 (by decide)
  obtain ⟨-, -, htold⟩ := (refusal_shows (.inl rfl) (by decide) (by decide) (by decide) (by decide)
    Config.standard fun _ => true).2 _ _ ha' hb'
  refine ⟨⟨_, ha, ?_⟩, _, _, ha', hb', fun hsame => ?_⟩
  · rw [hstars, ← hstars']
    exact hb
  · rcases htold.1 hsame with hne | heq
    · exact hne rfl
    · exact absurd heq (by decide)

end Config
end Remedy
