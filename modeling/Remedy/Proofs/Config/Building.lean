/-
# What is validated can be built

A remediation is validated when it is loaded, and its dispatcher is built after that, from the
same command and the same pattern, which each of them compiles for itself.  The two go by different
conditions, in a different order: validation begins with the command and refuses one that is nothing
but blanks, while the dispatcher looks at the command last, and refuses one that has no words.  That
comes to the same (`Text.words_eq_nil_iff`), so that a configuration that is valid can be built, and
one that cannot be built is not valid (`validated_builds`).
-/

import Remedy.Consumer.Run
import Remedy.Proofs.Command.Parsing
import Remedy.Proofs.Config.Credentials
import Remedy.Proofs.Dispatch.SafeNames
import Remedy.Proofs.Results

namespace Remedy

namespace Config

/-! ### Patterns -/

/-- What is told about a pattern that cannot be used. -/
def patternError (pattern : String) (e : Pattern.Refusal) : Error :=
  .invalid "RUNBOOK_SERVICE_PATTERN" pattern (e.message pattern)

/-- A policy is made of a pattern that can be compiled. -/
theorem ofPattern_of_ok {pattern : String} {p : Pattern.Compiled}
    (h : Pattern.compile pattern = .ok p) (allowed : List String) :
    Dispatch.Policy.ofPattern pattern allowed = .ok ⟨p, allowed⟩ := by
  rw [Dispatch.Policy.ofPattern, h]

/-- None is made of another one. -/
theorem ofPattern_of_error {pattern : String} {e : Pattern.Refusal}
    (h : Pattern.compile pattern = .error e) (allowed : List String) :
    Dispatch.Policy.ofPattern pattern allowed = .error (patternError pattern e) := by
  rw [Dispatch.Policy.ofPattern, h]
  rfl

/-! ### Remediations -/

namespace Runbook

variable {r : Runbook} {p : Pattern.Compiled} {e : Pattern.Refusal}

/-- A pattern that compiles is valid. -/
theorem validatePattern_of_ok {pattern : String} (h : Pattern.compile pattern = .ok p) :
    validatePattern pattern = .ok () := by
  rw [validatePattern, h]

/-- **Validation tells the same of a pattern that cannot be used** as building a policy does,
though each of the two compiles the pattern for itself. -/
theorem validatePattern_of_error {pattern : String} (h : Pattern.compile pattern = .error e) :
    validatePattern pattern = .error (patternError pattern e) := by
  rw [validatePattern, h]
  rfl

/-- Whether a remediation has what its dispatcher is built from. -/
structure Buildable (r : Runbook) : Prop where
  command : Text.isAllBlank r.command = false
  pattern : ∃ p, Pattern.compile r.pattern = .ok p

/-- What stands in the way of building. -/
theorem not_buildable_iff :
    ¬r.Buildable ↔ Text.isAllBlank r.command = true ∨ ∃ e, Pattern.compile r.pattern = .error e := by
  constructor
  · intro h
    cases hblank : Text.isAllBlank r.command with
    | true => exact .inl rfl
    | false =>
      cases hp : Pattern.compile r.pattern with
      | ok p => exact absurd ⟨hblank, p, hp⟩ h
      | error e => exact .inr ⟨e, rfl⟩
  · rintro (hblank | ⟨e, hp⟩) ⟨hcommand, p, hpattern⟩
    · rw [hblank] at hcommand
      cases hcommand
    · rw [hp] at hpattern
      cases hpattern

/-- A dispatcher with a pattern that can be used fails as its command does. -/
theorem dispatcher_of_ok (h : Pattern.compile r.pattern = .ok p) :
    r.dispatcher = (Command.Template.parse r.command).map fun t => ⟨⟨p, r.allowed⟩, t⟩ := by
  simp only [dispatcher, Dispatcher.build, ofPattern_of_ok h]
  cases Command.Template.parse r.command <;> rfl

/-- A pattern that cannot be compiled is the failure of the dispatcher. -/
theorem dispatcher_of_error (h : Pattern.compile r.pattern = .error e) :
    r.dispatcher = .error (patternError r.pattern e) := by
  simp only [dispatcher, Dispatcher.build, ofPattern_of_error h]
  rfl

/-- **A dispatcher is built of a command with words and a pattern that can be used,** and of
nothing else. -/
theorem exists_dispatcher_iff : (∃ d, r.dispatcher = .ok d) ↔ r.Buildable := by
  constructor
  · rintro ⟨d, hd⟩
    refine Classical.not_not.1 fun hnot => ?_
    cases hp : Pattern.compile r.pattern with
    | error e =>
      rw [dispatcher_of_error hp] at hd
      cases hd
    | ok p =>
      rcases not_buildable_iff.1 hnot with hblank | ⟨e, he⟩
      · rw [dispatcher_of_ok hp, Command.Template.parse_of_blank hblank] at hd
        cases hd
      · rw [hp] at he
        cases he
  · rintro ⟨hcommand, p, hp⟩
    obtain ⟨t, ht⟩ := Command.Template.exists_parse hcommand
    exact ⟨⟨⟨p, r.allowed⟩, t⟩, by rw [dispatcher_of_ok hp, ht]; rfl⟩

/-- **A dispatcher fails to be built just where the settings are not buildable.** -/
theorem exists_dispatcher_error_iff : (∃ e, r.dispatcher = .error e) ↔ ¬r.Buildable := by
  rw [← exists_dispatcher_iff]
  cases r.dispatcher with
  | ok d => simp
  | error e => simp

/-- With a command and a time limit, validation goes on with the pattern. -/
theorem validate_of_command (hcommand : Text.isAllBlank r.command = false)
    (htimeout : r.timeoutSeconds ≠ 0) (isDirectory : Host.Path → Bool) :
    r.validate isDirectory = (validatePattern r.pattern).bind fun _ =>
      validateDirectory isDirectory r.workingDir := by
  simp only [validate, requireText, hcommand, htimeout, if_false, Bool.false_eq_true]
  rfl

/-- **What is valid can be built.** -/
theorem buildable_of_validate {isDirectory : Host.Path → Bool} (h : r.validate isDirectory = .ok ()) :
    r.Buildable := by
  cases hcommand : Text.isAllBlank r.command with
  | true =>
    simp only [validate, requireText, hcommand, if_true] at h
    cases h
  | false =>
    by_cases htimeout : r.timeoutSeconds = 0
    · simp only [validate, requireText, hcommand, htimeout, if_true] at h
      cases h
    · cases hp : Pattern.compile r.pattern with
      | ok p => exact ⟨hcommand, p, hp⟩
      | error e =>
        rw [validate_of_command hcommand htimeout, validatePattern_of_error hp] at h
        cases h

end Runbook

/-! ### Configurations -/

variable {c : Config} {isDirectory : Host.Path → Bool}

/-- A configuration is valid if and only if both parts of it are. -/
theorem validate_eq_ok_iff : c.validate isDirectory = .ok () ↔
    c.endpoint.validate = .ok () ∧ c.runbook.validate isDirectory = .ok () := by
  rw [validate, bind_eq_ok_iff]
  constructor
  · rintro ⟨_, hendpoint, hrunbook⟩
    exact ⟨hendpoint, hrunbook⟩
  · rintro ⟨hendpoint, hrunbook⟩
    exact ⟨(), hendpoint, hrunbook⟩

/-- With the standard command, directory and pattern any list and any time limit will do. -/
theorem validate_of_standard (hendpoint : c.endpoint.validate = .ok ())
    (hcommand : c.runbook.command = Runbook.standard.command)
    (htimeout : c.runbook.timeoutSeconds ≠ 0) (hdir : c.runbook.workingDir = none)
    (hpattern : c.runbook.pattern = Runbook.standard.pattern) :
    c.validate isDirectory = .ok () := by
  have hblank : Text.isAllBlank c.runbook.command = false := by
    rw [hcommand]
    decide
  have hcompile : Pattern.compile c.runbook.pattern = .ok Dispatch.safeNames := by
    rw [hpattern]
    exact Dispatch.compile_safeNamePattern
  refine validate_eq_ok_iff.2 ⟨hendpoint, ?_⟩
  rw [Runbook.validate_of_command hblank htimeout, Runbook.validatePattern_of_ok hcompile, hdir]
  rfl

/-- The standard configuration is valid. -/
theorem validate_standard (isDirectory : Host.Path → Bool) :
    Config.standard.validate isDirectory = .ok () :=
  validate_of_standard rfl rfl (by decide) rfl rfl

/-- A consumer has the dispatcher of its configuration. -/
theorem ofConfig_eq (c : Config) : Consumer.ofConfig c =
    c.runbook.dispatcher.map fun d => ⟨d, c.endpoint.queue, c.runbook.ackMode⟩ := by
  rw [Consumer.ofConfig]
  cases c.runbook.dispatcher <;> rfl

/-- A consumer can be built if and only if its dispatcher can. -/
theorem exists_consumer_iff :
    (∃ consumer, Consumer.ofConfig c = .ok consumer) ↔ ∃ d, c.runbook.dispatcher = .ok d := by
  simp only [ofConfig_eq, map_eq_ok_iff]
  constructor
  · rintro ⟨_, d, hd, -⟩
    exact ⟨d, hd⟩
  · rintro ⟨d, hd⟩
    exact ⟨_, d, hd, rfl⟩

/-- **Validation and construction agree.**  The dispatcher of a remediation cannot be built if and
only if its command is nothing but blanks or its pattern cannot be used.  From a configuration
that is valid, and so from one that has been loaded, the dispatcher and the consumer are built,
and one from which they are not is not valid.  Where nothing but the pattern is wrong, the same
is told of it either way. -/
theorem validated_builds (isDirectory : Host.Path → Bool) (c : Config) :
    (∀ r : Runbook, (∃ e, r.dispatcher = .error e) ↔
      (∀ x ∈ r.command.toList, Text.isBlank x = true) ∨ ∃ e, Pattern.compile r.pattern = .error e) ∧
    (c.validate isDirectory = .ok () →
      (∃ d, c.runbook.dispatcher = .ok d) ∧ ∃ consumer, Consumer.ofConfig c = .ok consumer) ∧
    (∀ vars, (load isDirectory vars).1 = .ok c →
      (∃ d, c.runbook.dispatcher = .ok d) ∧ ∃ consumer, Consumer.ofConfig c = .ok consumer) ∧
    ((∃ e, c.runbook.dispatcher = .error e) ∨ (∃ e, Consumer.ofConfig c = .error e) →
      ∃ e, c.validate isDirectory = .error e) ∧
    ∀ e, Pattern.compile c.runbook.pattern = .error e → c.endpoint.validate = .ok () →
      (∃ x ∈ c.runbook.command.toList, Text.isBlank x = false) → c.runbook.timeoutSeconds ≠ 0 →
      c.validate isDirectory = .error (patternError c.runbook.pattern e) ∧
      c.runbook.dispatcher = .error (patternError c.runbook.pattern e) ∧
      Consumer.ofConfig c = .error (patternError c.runbook.pattern e) := by
  have hbuilds : c.validate isDirectory = .ok () →
      (∃ d, c.runbook.dispatcher = .ok d) ∧ ∃ consumer, Consumer.ofConfig c = .ok consumer := by
    intro h
    have hd := Runbook.exists_dispatcher_iff.2
      (Runbook.buildable_of_validate (validate_eq_ok_iff.1 h).2)
    exact ⟨hd, exists_consumer_iff.2 hd⟩
  refine ⟨fun r => ?_, hbuilds, fun vars h => hbuilds (load_eq_ok_iff.1 h).2, fun h => ?_,
    fun e hp hendpoint ⟨x, hx, hblank⟩ htimeout => ?_⟩
  · rw [Runbook.exists_dispatcher_error_iff, Runbook.not_buildable_iff, Text.isAllBlank,
      List.all_eq_true]
  · cases hv : c.validate isDirectory with
    | error e => exact ⟨e, rfl⟩
    | ok _ =>
      obtain ⟨⟨d, hd⟩, consumer, hconsumer⟩ := hbuilds hv
      rcases h with ⟨e, he⟩ | ⟨e, he⟩
      · rw [hd] at he
        cases he
      · rw [hconsumer] at he
        cases he
  · have hcommand : Text.isAllBlank c.runbook.command = false := by
      rw [Text.isAllBlank, List.all_eq_false]
      exact ⟨x, hx, by rw [hblank]; exact Bool.false_ne_true⟩
    have hd := Runbook.dispatcher_of_error hp
    refine ⟨?_, hd, by rw [ofConfig_eq, hd]; rfl⟩
    rw [validate, hendpoint]
    exact (Runbook.validate_of_command hcommand htimeout isDirectory).trans
      (by rw [Runbook.validatePattern_of_error hp]; rfl)

/-- A group that is not closed, beside the standard configuration. -/
theorem validated_builds_of_open_group :
    let c : Config := ⟨.standard, { Runbook.standard with pattern := "(" }⟩
    (∃ e, c.validate (fun _ => true) = .error e ∧ c.runbook.dispatcher = .error e ∧
      Consumer.ofConfig c = .error e) ∧
      Config.standard.validate (fun _ => true) = .ok () ∧
      ∃ consumer, Consumer.ofConfig Config.standard = .ok consumer := by
  intro c
  obtain ⟨e, he⟩ : ∃ e, Pattern.compile "(" = .error e := by
    have hopen : (Pattern.compile "(").isOk = false := by decide +kernel
    cases h : Pattern.compile "(" with
    | error e => exact ⟨e, rfl⟩
    | ok p =>
      rw [h] at hopen
      cases hopen
  obtain ⟨-, -, -, -, hpattern⟩ := validated_builds (fun _ => true) c
  obtain ⟨-, hvalid, -⟩ := validated_builds (fun _ => true) Config.standard
  have hstandard := validate_standard fun _ => true
  have hendpoint : c.endpoint.validate = .ok () := (validate_eq_ok_iff.1 hstandard).1
  exact ⟨⟨_, hpattern e he hendpoint ⟨'d', by decide, by decide⟩ (by decide)⟩, hstandard,
    (hvalid hstandard).2⟩

end Config
end Remedy
