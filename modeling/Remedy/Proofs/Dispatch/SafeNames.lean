/-
# Safe names

The pattern that is used unless another is configured is anchored at both ends and counts the
characters between, so that what it matches can be said of the bytes of a payload directly:
there are 1 to 128 of them, the first is an ASCII letter or digit, and the others are ASCII
letters, digits, `-`, `.` or `_` (`SafeName`).  A dispatcher with this pattern and no
allow-list accepts such payloads and no others (`Config.Runbook.standard_accepts`).  None of
them holds anything that a shell or a file system takes for more than a part of a name.
-/

import Remedy.Config.Basic
import Remedy.Proofs.Dispatch.Resolution
import Remedy.Proofs.Pattern.Meaning

namespace Remedy
namespace Dispatch

/-! ### The grammar -/

/-- An ASCII letter or digit, by its number. -/
def LetterOrDigit (n : Nat) : Prop :=
  0x30 ≤ n ∧ n ≤ 0x39 ∨ 0x41 ≤ n ∧ n ≤ 0x5A ∨ 0x61 ≤ n ∧ n ≤ 0x7A

/-- What a safe name may go on with: `-`, `.` and `_` too. -/
def NamePart (n : Nat) : Prop := LetterOrDigit n ∨ n = 0x2D ∨ n = 0x2E ∨ n = 0x5F

/-- **The grammar of safe names.** -/
structure SafeName (payload : List UInt8) : Prop where
  nonempty : 1 ≤ payload.length
  short : payload.length ≤ 128
  first : ∀ b ∈ payload.head?, LetterOrDigit b.toNat
  others : ∀ b ∈ payload.tail, NamePart b.toNat

instance (n : Nat) : Decidable (LetterOrDigit n) := inferInstanceAs (Decidable (_ ∨ _ ∨ _))

instance (n : Nat) : Decidable (NamePart n) := inferInstanceAs (Decidable (_ ∨ _ ∨ _ ∨ _))

/-- Characters that are blank, end a text or a line, part the names on a path, or mean something
to a shell. -/
def hazards : List Char :=
  ['\t', '\n', '\x0b', '\x0c', '\r', ' ', '\x00', '/', '|', '&', ';', '<', '>', '(', ')', '$',
    '\x60', '\\', '"', '\x27', '*', '?', '[', ']', '\x7b', '\x7d', '#', '~', '=', '%', '!', '^']

/-- Safe names are of ASCII. -/
theorem NamePart.lt {n : Nat} (h : NamePart n) : n < 0x80 := by
  unfold NamePart LetterOrDigit at h
  omega

/-- No part of a safe name is a hazard. -/
theorem NamePart.ne_of_mem_hazards {n : Nat} (h : NamePart n) {c : Char} (hc : c ∈ hazards) :
    n ≠ c.toNat := by
  have hall : (hazards.all fun c => decide ¬NamePart c.toNat) = true := by decide
  have hout := of_decide_eq_true (List.all_eq_true.1 hall c hc)
  rintro rfl
  exact hout h

namespace SafeName

variable {payload : List UInt8}

/-- A safe name by its first byte and the others. -/
theorem cons_iff {b : UInt8} {bytes : List UInt8} :
    SafeName (b :: bytes) ↔
      LetterOrDigit b.toNat ∧ bytes.length ≤ 127 ∧ ∀ x ∈ bytes, NamePart x.toNat := by
  constructor
  · rintro ⟨-, hshort, hfirst, hothers⟩
    rw [List.length_cons] at hshort
    exact ⟨hfirst b rfl, by omega, hothers⟩
  · rintro ⟨hb, hlength, hbytes⟩
    refine ⟨?_, ?_, ?_, hbytes⟩
    · rw [List.length_cons]
      omega
    · rw [List.length_cons]
      omega
    · intro x hx
      obtain rfl : b = x := Option.some.inj hx
      exact hb

instance : (payload : List UInt8) → Decidable (SafeName payload)
  | [] => isFalse fun h => absurd h.nonempty (by decide)
  | b :: bytes =>
    decidable_of_iff (LetterOrDigit b.toNat ∧ bytes.length ≤ 127 ∧
        (bytes.all fun x => decide (NamePart x.toNat)) = true)
      (by simp only [cons_iff, List.all_eq_true, decide_eq_true_eq])

/-- A safe name has a first byte. -/
theorem exists_cons (h : SafeName payload) : ∃ b bytes, payload = b :: bytes := by
  cases payload with
  | nil => exact absurd h.nonempty (by decide)
  | cons b bytes => exact ⟨b, bytes, rfl⟩

/-- Every byte of a safe name may stand in one. -/
theorem namePart (h : SafeName payload) {b : UInt8} (hb : b ∈ payload) : NamePart b.toNat := by
  obtain ⟨x, bytes, rfl⟩ := h.exists_cons
  obtain ⟨hx, -, hbytes⟩ := cons_iff.1 h
  rcases List.mem_cons.1 hb with rfl | hb
  · exact .inl hx
  · exact hbytes b hb

/-- **A safe name holds no hazard** and nothing beyond ASCII, and it is no option, no hidden file
and no step up a path. -/
theorem harmless (h : SafeName payload) :
    (∀ b ∈ payload, b.toNat < 0x80 ∧ ∀ c ∈ hazards, b.toNat ≠ c.toNat) ∧
      ∀ b ∈ payload.head?, b.toNat ≠ '-'.toNat ∧ b.toNat ≠ '.'.toNat := by
  refine ⟨fun b hb => ⟨(h.namePart hb).lt, fun c hc => (h.namePart hb).ne_of_mem_hazards hc⟩,
    fun b hb => ?_⟩
  have hdash : '-'.toNat = 0x2D := rfl
  have hdot : '.'.toNat = 0x2E := rfl
  have hfirst := h.first b hb
  unfold LetterOrDigit at hfirst
  omega

end SafeName

-- a line break after a name is not ignored
example : SafeName [0x77, 0x65, 0x62] ∧ ¬SafeName [0x77, 0x65, 0x62, 0x0A] := by decide

/-! ### The pattern -/

/-- The characters that a safe name may begin with. -/
def firstRanges : Character.Ranges := [(0x30, 0x39), (0x41, 0x5A), (0x61, 0x7A)]

/-- The characters that it may go on with. -/
def otherRanges : Character.Ranges :=
  [(0x2D, 0x2E), (0x30, 0x39), (0x41, 0x5A), (0x5F, 0x5F), (0x61, 0x7A)]

/-- What the pattern of safe names is compiled to. -/
def safeNames : Pattern.Compiled where
  text := safeNamePattern
  regex := .row
    [.look .textStart, .set firstRanges, .rep (.set otherRanges) 0 (some 127) true, .look .textEnd]

/-- The pattern of safe names can be used. -/
theorem compile_safeNamePattern : Pattern.compile safeNamePattern = .ok safeNames := by
  have hregex : Pattern.regex safeNamePattern = .ok safeNames.regex := rfl
  have hfits : safeNames.regex.fits = true := by decide +kernel
  rw [Pattern.compile, hregex]
  simp only [hfits, if_true]
  rfl

/-- The first ranges hold letters and digits. -/
theorem has_firstRanges {n : Nat} : firstRanges.has n = true ↔ LetterOrDigit n := by
  simp [firstRanges, LetterOrDigit]

/-- The other ranges hold what a name may go on with. -/
theorem has_otherRanges {n : Nat} : otherRanges.has n = true ↔ NamePart n := by
  simp only [otherRanges, Character.Ranges.has_cons, Character.Ranges.has_nil, Bool.or_eq_true,
    Bool.and_eq_true, decide_eq_true_eq, NamePart, LetterOrDigit, Bool.false_eq_true, or_false]
  omega

/-- **What the pattern matches,** character by character. -/
theorem matches_safeNames_iff {text : List Char} :
    safeNames.regex.occursIn text = true ↔ ∃ c rest, text = c :: rest ∧
      LetterOrDigit c.toNat ∧ rest.length ≤ 127 ∧ ∀ x ∈ rest, NamePart x.toNat := by
  rw [Pattern.Regex.occursIn_iff]
  simp only [safeNames, Pattern.Regex.Matches, Pattern.Regex.MatchesRow,
    Pattern.Times.chars_iff, has_firstRanges, has_otherRanges, Pattern.Look.holds]
  constructor
  · rintro ⟨_, -, j, i, ⟨rfl, hi, hstart⟩, _, ⟨rfl, c, hc, hfirst⟩, _,
      ⟨n, -, hn, rfl, hrest⟩, _, ⟨rfl, hj, hend⟩, rfl⟩
    -- no character stands before the match, and none after it
    cases i with
    | succ i =>
      rw [Pattern.before, Option.isNone_iff_eq_none, List.getElem?_eq_none_iff] at hstart
      omega
    | zero =>
      cases text with
      | nil => cases hc
      | cons d rest =>
        obtain rfl : d = c := Option.some.inj hc
        rw [Option.isNone_iff_eq_none, List.getElem?_eq_none_iff] at hend
        rw [List.length_cons] at hend hj
        have hlength : n = rest.length := by omega
        have hbound := hn 127 rfl
        refine ⟨d, rest, rfl, hfirst, by omega, fun x hx => ?_⟩
        obtain ⟨k, hk, rfl⟩ := List.getElem_of_mem hx
        obtain ⟨y, hy, hpart⟩ := hrest k (by omega)
        rw [Nat.zero_add, Nat.add_comm, List.getElem?_cons_succ,
          List.getElem?_eq_getElem hk] at hy
        rwa [Option.some.inj hy]
  · rintro ⟨c, rest, rfl, hc, hlength, hrest⟩
    have hpart : ∀ k < rest.length, ∃ x, (c :: rest)[0 + 1 + k]? = some x ∧ NamePart x.toNat := by
      intro k hk
      refine ⟨rest[k], ?_, hrest _ (List.getElem_mem hk)⟩
      rw [Nat.zero_add, Nat.add_comm, List.getElem?_cons_succ, List.getElem?_eq_getElem hk]
    have hend : (c :: rest)[0 + 1 + rest.length]? = none := by
      rw [List.getElem?_eq_none_iff, List.length_cons]
      omega
    refine ⟨0, Nat.zero_le _, 0 + 1 + rest.length, 0, ⟨rfl, Nat.zero_le _, rfl⟩, 0 + 1,
      ⟨rfl, c, rfl, hc⟩, 0 + 1 + rest.length, ⟨rest.length, Nat.zero_le _, ?_, rfl, hpart⟩,
      0 + 1 + rest.length, ⟨rfl, ?_, ?_⟩, rfl⟩
    · intro m hm
      obtain rfl : 127 = m := Option.some.inj hm
      omega
    · rw [List.length_cons]
      omega
    · rw [hend]
      rfl

/-- A name is matched if and only if its bytes are a safe name. -/
theorem occursIn_safeNames_iff {payload : List UInt8} :
    (∃ name, Names payload name ∧ safeNames.occursIn name = true) ↔ SafeName payload := by
  simp only [Pattern.Compiled.occursIn, matches_safeNames_iff]
  constructor
  · rintro ⟨name, h, c, rest, hname, hc, hlength, hrest⟩
    have hbytes := h.bytes
    have hascii : ∀ x ∈ c :: rest, x.toNat < 0x80 := by
      intro x hx
      rcases List.mem_cons.1 hx with rfl | hx
      · exact NamePart.lt (.inl hc)
      · exact (hrest x hx).lt
    have hnat : ∀ x ∈ c :: rest, (UInt8.ofNat x.toNat).toNat = x.toNat := by
      intro x hx
      exact Text.Utf8.toNat_ofNat_of_lt (Nat.lt_trans (hascii x hx) (by decide))
    rw [hname, Text.Utf8.encode_of_ascii hascii, List.map_cons] at hbytes
    rw [← hbytes, SafeName.cons_iff, hnat c List.mem_cons_self, List.length_map]
    refine ⟨hc, hlength, fun b hb => ?_⟩
    obtain ⟨x, hx, rfl⟩ := List.mem_map.1 hb
    rw [hnat x (List.mem_cons_of_mem c hx)]
    exact hrest x hx
  · intro h
    have hbytes := Text.Utf8.encode_map_ofNat fun b hb => (h.namePart hb).lt
    have hnat : ∀ b ∈ payload, (Char.ofNat b.toNat).toNat = b.toNat := by
      intro b hb
      have hlt := (h.namePart hb).lt
      exact Text.Utf8.toNat_charOfNat (.inl (by omega))
    obtain ⟨b, bytes, rfl⟩ := h.exists_cons
    obtain ⟨hb, hlength, hothers⟩ := SafeName.cons_iff.1 h
    refine ⟨String.ofList ((b :: bytes).map fun b => Char.ofNat b.toNat),
      ⟨by rw [String.toList_ofList, hbytes], List.cons_ne_nil b bytes⟩, _, _,
      String.toList_ofList, ?_, by rwa [List.length_map], fun x hx => ?_⟩
    · rwa [hnat b List.mem_cons_self]
    · obtain ⟨y, hy, rfl⟩ := List.mem_map.1 hx
      rw [hnat y (List.mem_cons_of_mem b hy)]
      exact hothers y hy

end Dispatch

/-! ### The command -/

namespace Command.Template

/-- A token without a placeholder is not changed. -/
theorem fill_of_pieces {token : String}
    (h : Text.pieces placeholder.toList token.toList = [token.toList]) (name : String) :
    fill name token = token := by
  rw [fill, Text.replace, Text.substitute, h, List.intercalate_singleton, String.ofList_toList]

/-- A token that is the placeholder becomes the name. -/
theorem fill_placeholder (name : String) : fill name placeholder = name := by
  have hpieces : Text.pieces placeholder.toList placeholder.toList = [[], []] := by decide
  rw [fill, Text.replace, Text.substitute, hpieces, List.intercalate_cons_cons,
    List.intercalate_singleton, List.nil_append, List.append_nil, String.ofList_toList]

/-- What the standard template becomes for a service. -/
theorem argv_standard (i : Dispatch.Identifier) :
    (⟨standard, i⟩ : Action).argv = ["docker", "compose", "restart", i.text] := by
  have hholds : standard.hasPlaceholder = true := by decide
  rw [Action.argv, Action.program, Action.args, renderProgram, renderArgs, hholds, if_pos rfl]
  simp only [standard, List.map_cons, List.map_nil, List.append_nil, fill_placeholder]
  rw [fill_of_pieces (by decide), fill_of_pieces (by decide), fill_of_pieces (by decide)]

end Command.Template

/-! ### Acceptance -/

namespace Config.Runbook

open Dispatch

/-- **The standard remediation acts on safe names, and on nothing else.**  It has a dispatcher,
with the pattern of safe names and without an allow-list, which accepts a payload if and only
if it is a safe name.  Then the command is `docker compose restart` and the payload, and there
is no hazard in it. -/
theorem standard_accepts :
    ∃ d : Dispatcher, standard.dispatcher = .ok d ∧
      Policy.ofPattern safeNamePattern [] = .ok d.policy ∧ d.template = .standard ∧
      ∀ payload,
        ((∃ a, d.resolve payload = .ok a) ↔ SafeName payload) ∧
        ∀ a, d.resolve payload = .ok a →
          a.argv = ["docker", "compose", "restart", a.target.text] ∧
          Text.Utf8.encode a.target.text.toList = payload ∧
          (∀ b ∈ payload, b.toNat < 0x80 ∧ ∀ c ∈ hazards, b.toNat ≠ c.toNat) ∧
          ∀ b ∈ payload.head?, b.toNat ≠ '-'.toNat ∧ b.toNat ≠ '.'.toNat := by
  have hpolicy : Policy.ofPattern safeNamePattern [] = .ok ⟨safeNames, []⟩ := by
    rw [Policy.ofPattern, compile_safeNamePattern]
  have hwords : Text.words Command.defaultCommand =
      ["docker", "compose", "restart", Command.placeholder] := by decide +kernel
  have htemplate : Command.Template.parse Command.defaultCommand = .ok .standard := by
    rw [Command.Template.parse, hwords]
    rfl
  refine ⟨⟨⟨safeNames, []⟩, .standard⟩, ?_, hpolicy, rfl, fun payload => ?_⟩
  · simp only [dispatcher, standard, Dispatcher.build, hpolicy, htemplate]
    rfl
  · have haccepts : (∃ a, (⟨⟨safeNames, []⟩, .standard⟩ : Dispatcher).resolve payload = .ok a) ↔
        SafeName payload := by
      rw [← occursIn_safeNames_iff]
      simp only [Dispatcher.resolve_eq_ok_iff]
      constructor
      · rintro ⟨a, -, h, hm, -⟩
        exact ⟨a.target.text, h, hm⟩
      · rintro ⟨name, h, hm⟩
        exact ⟨⟨.standard, ⟨name, h.ne_empty⟩⟩, rfl, h, hm, fun hne => absurd rfl hne⟩
    refine ⟨haccepts, fun a ha => ?_⟩
    obtain ⟨hstandard, h, -, -⟩ := Dispatcher.resolve_eq_ok_iff.1 ha
    obtain ⟨template, target⟩ := a
    obtain rfl : template = .standard := hstandard
    exact ⟨Command.Template.argv_standard target, h.bytes, (haccepts.1 ⟨_, ha⟩).harmless⟩

end Config.Runbook
end Remedy
