/-
# Command lines and templates

A command line is parsed by its blanks alone, so that its tokens are its words.  A template is
written with one blank between each two tokens.  What has been parsed is written in that form,
and read from it again, and so is every template whose tokens are words
(`parse_reads_text_back`).
-/

import Remedy.Command.Action
import Remedy.Proofs.Text.Words

namespace Remedy
namespace Command
namespace Template

variable {command : String} {t : Template}

/-- What is told about a command without words when it is parsed. -/
theorem parse_of_blank (h : Text.isAllBlank command = true) :
    parse command = .error (.invalid "RUNBOOK_COMMAND" command "command is empty") := by
  rw [parse, Text.words_eq_nil_iff.2 h]

/-- A command line that is not blank has a template. -/
theorem exists_parse (h : Text.isAllBlank command = false) : ∃ t, parse command = .ok t := by
  cases hw : Text.words command with
  | nil =>
    rw [Text.words_eq_nil_iff.1 hw] at h
    cases h
  | cons program args => exact ⟨⟨program, args⟩, by rw [parse, hw]⟩

/-- A command line fails to be parsed if and only if it is nothing but blanks. -/
theorem exists_parse_error_iff :
    (∃ e, parse command = .error e) ↔ ∀ c ∈ command.toList, Text.isBlank c = true := by
  rw [← List.all_eq_true, ← Text.isAllBlank]
  constructor
  · rintro ⟨e, he⟩
    refine Classical.byContradiction fun hnot => ?_
    obtain ⟨t, ht⟩ := exists_parse (Bool.eq_false_iff.2 hnot)
    rw [he] at ht
    cases ht
  · exact fun h => ⟨_, parse_of_blank h⟩

/-- The template of a command line is made of its words. -/
theorem parse_eq_ok_iff_words : parse command = .ok t ↔ Text.words command = t.tokens := by
  rw [parse]
  cases Text.words command with
  | nil =>
    constructor
    · intro h
      cases h
    · intro h
      cases h
  | cons program args =>
    constructor
    · intro h
      rw [← Except.ok.inj h, tokens]
    · intro h
      obtain ⟨rfl, rfl⟩ := List.cons.inj h
      rfl

/-- **A command line is parsed to a template if and only if it falls into its tokens.** -/
theorem parse_eq_ok_iff :
    parse command = .ok t ↔ Text.Spaced command.toList (t.tokens.map String.toList) := by
  rw [parse_eq_ok_iff_words, ← Text.wordsOf_eq_iff, Text.words]
  constructor
  · intro h
    rw [← h, List.map_map]
    simp only [Function.comp_def, String.toList_ofList, List.map_id']
  · intro h
    rw [h, List.map_map]
    simp only [Function.comp_def, String.ofList_toList, List.map_id']

/-- The characters of a template that is written out. -/
theorem toList_text (t : Template) : t.text.toList = [' '].intercalate (t.tokens.map String.toList) := by
  rw [text, String.toList_intercalate]
  rfl

/-- A template of words is read from the form in which it is written. -/
theorem parse_text (h : ∀ token ∈ t.tokens, Text.IsWord token.toList) : parse t.text = .ok t := by
  rw [parse_eq_ok_iff, toList_text]
  refine Text.spaced_intercalate fun w hw => ?_
  obtain ⟨token, htoken, rfl⟩ := List.mem_map.1 hw
  exact h token htoken

/-- The tokens of a template that has been read are words. -/
theorem isWord_of_parse (h : parse command = .ok t) : ∀ token ∈ t.tokens, Text.IsWord token.toList :=
  fun _ htoken => (parse_eq_ok_iff.1 h).isWord _ (List.mem_map_of_mem htoken)

/-- **Parsing and writing agree.**  A command line cannot be parsed if and only if it is nothing
but blanks.  Otherwise the tokens are the words that it falls into: none is empty or holds a
blank, and one after the other they are the command line without its blanks.  Any template is
written with one blank between each two tokens; one that has been parsed is read from that form
again, as is every template whose tokens are words. -/
theorem parse_reads_text_back :
    (∀ command,
      ((∃ e, parse command = .error e) ↔ ∀ c ∈ command.toList, Text.isBlank c = true) ∧
      ∀ t, parse command = .ok t →
        Text.Spaced command.toList (t.tokens.map String.toList) ∧
        (∀ token ∈ t.tokens, Text.IsWord token.toList) ∧
        (t.tokens.map String.toList).flatten = command.toList.filter (fun c => !Text.isBlank c) ∧
        parse t.text = .ok t) ∧
    ∀ t : Template,
      t.text.toList = [' '].intercalate (t.tokens.map String.toList) ∧
      ((∀ token ∈ t.tokens, Text.IsWord token.toList) → parse t.text = .ok t) := by
  refine ⟨fun command => ⟨exists_parse_error_iff, fun t ht => ?_⟩,
    fun t => ⟨toList_text t, parse_text⟩⟩
  have hspaced := parse_eq_ok_iff.1 ht
  exact ⟨hspaced, isWord_of_parse ht, hspaced.flatten_eq, parse_text (isWord_of_parse ht)⟩

/-- Of a command line with blanks of several kinds the words are left. -/
theorem parse_reads_text_back_of_wide_blanks :
    ∃ t, parse "\u3000docker\u2003compose \t restart\u00a0" = .ok t ∧
      t.text.toList = "docker compose restart".toList ∧ parse t.text = .ok t := by
  have hparse : parse "\u3000docker\u2003compose \t restart\u00a0" =
      .ok ⟨"docker", ["compose", "restart"]⟩ := by
    rw [parse_eq_ok_iff_words]
    decide +kernel
  obtain ⟨hparses, hwrites⟩ := parse_reads_text_back
  refine ⟨_, hparse, ?_, ((hparses _).2 _ hparse).2.2.2⟩
  rw [(hwrites _).1]
  decide +kernel

end Template
end Command
end Remedy
