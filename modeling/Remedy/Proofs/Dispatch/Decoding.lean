/-
# What is told of a payload that is no text

A payload is refused for its bytes if and only if they are no text.  The reason tells where the
longest text at the front of it ends, and what is wrong there: the bytes from there on either are
the beginning of a character that has been cut off, or as many of them are wrong as a character can
begin with, but one at least (`payload_read`).  What is accepted is written as the payload.
-/

import Remedy.Proofs.Dispatch.Resolution
import Remedy.Proofs.Text.Faults

namespace Remedy
namespace Dispatch
namespace Identifier

open Text.Utf8 (Begins Fault Longest Unfinished WellFormed)

variable {payload : List UInt8}

/-- A payload with a fault is rejected with the message of the fault. -/
theorem ofPayload_of_fault {fault : Fault} (h : Text.Utf8.decode payload = .error fault) :
    ofPayload payload = .error (.invalidUtf8 fault.message) := by
  rw [ofPayload, h]

/-- A payload is refused for its bytes if and only if they are no text. -/
theorem exists_invalidUtf8_iff :
    (∃ reason, ofPayload payload = .error (.invalidUtf8 reason)) ↔ ¬WellFormed payload := by
  rw [Text.Utf8.wellFormed_iff]
  rcases ofPayload_cases payload with ⟨fault, hf, -, hp⟩ | ⟨rfl, hp⟩ | ⟨i, hi, hp⟩
  · refine iff_of_true ⟨_, hp⟩ ?_
    rintro ⟨cs, hcs⟩
    rw [hf] at hcs
    cases hcs
  · refine iff_of_false ?_ (not_not_intro ⟨[], rfl⟩)
    rintro ⟨reason, hreason⟩
    rw [hp] at hreason
    cases hreason
  · refine iff_of_false ?_ (not_not_intro ⟨_, Text.Utf8.decode_eq_ok_iff.2 hi.bytes⟩)
    rintro ⟨reason, hreason⟩
    rw [hp] at hreason
    cases hreason

/-- **How a payload is read.**  It is refused for its bytes if and only if they are no text.  Then
the reason tells how long the longest text at the front is.  If a character begins with the rest and
goes on after it, the payload is said to be incomplete from there on.  Otherwise as many bytes are
said to be invalid as the longest beginning of a character at the front of the rest has, or one if
there is none but the empty one; there are three at most.  A payload is accepted as the identifier
that is written so. -/
theorem payload_read (payload : List UInt8) :
    ((∃ reason, ofPayload payload = .error (.invalidUtf8 reason)) ↔ ¬WellFormed payload) ∧
    (¬WellFormed payload → ∃ text rest, payload = text ++ rest ∧
      Longest WellFormed text payload ∧
      (Unfinished rest → ofPayload payload = .error (.invalidUtf8
        ("incomplete utf-8 byte sequence from index " ++ toString text.length))) ∧
      (¬Unfinished rest → ∃ part, Longest Begins part rest ∧ part.length ≤ 3 ∧
        ofPayload payload = .error (.invalidUtf8
          ("invalid utf-8 sequence of " ++ toString (max 1 part.length) ++ " bytes from index " ++
            toString text.length)))) ∧
    ∀ i, ofPayload payload = .ok i ↔ Text.Utf8.encode i.text.toList = payload := by
  refine ⟨exists_invalidUtf8_iff, fun h => ?_, fun i => ?_⟩
  · cases hdecode : Text.Utf8.decode payload with
    | ok cs => exact absurd (Text.Utf8.wellFormed_iff.2 ⟨cs, hdecode⟩) h
    | error fault =>
      have hreason := ofPayload_of_fault hdecode
      obtain ⟨cs, bad, rest, rfl, hbad, hindex, hcut, hwrong⟩ :=
        (Text.Utf8.tells_of_decode hdecode).exists_fault
      rw [Nat.zero_add] at hindex
      refine ⟨_, bad ++ rest, rfl, hbad.longest_encode cs, fun hun => ?_, fun hun => ?_⟩
      · rw [hreason, Fault.message, hcut hun, hindex]
      · obtain ⟨part, hpart, hlength⟩ := hbad.exists_longest
        have hle := hbad.length_le
        refine ⟨part, hpart, by omega, ?_⟩
        rw [hreason, Fault.message, hwrong hun, hindex, hlength]
  · rw [ofPayload_eq_ok_iff]
    constructor
    · exact Names.bytes
    · intro hbytes
      refine ⟨hbytes, fun hnil => i.nonempty ?_⟩
      exact encode_toList_eq_nil_iff.1 (hbytes.trans hnil)

/-- A letter, and three of the four bytes of a character before one that does not go on with
them. -/
theorem payload_read_of_cut_character :
    let payload : List UInt8 := [0x61, 0xF0, 0x9F, 0x98, 0x41]
    ¬WellFormed payload ∧ ∃ text rest, payload = text ++ rest ∧ Longest WellFormed text payload ∧
      ¬Unfinished rest ∧ ∃ part, Longest Begins part rest ∧ part.length ≤ 3 ∧
        "invalid utf-8 sequence of 3 bytes from index 1" =
          "invalid utf-8 sequence of " ++ toString (max 1 part.length) ++ " bytes from index " ++
            toString text.length := by
  intro payload
  have hmessage : ofPayload payload =
      .error (.invalidUtf8 "invalid utf-8 sequence of 3 bytes from index 1") := rfl
  have h : ¬WellFormed payload := exists_invalidUtf8_iff.1 ⟨_, hmessage⟩
  obtain ⟨text, rest, hpayload, htext, hcut, hwrong⟩ := (payload_read payload).2.1 h
  have hun : ¬Unfinished rest := by
    intro hun
    have hreason := hmessage.symm.trans (hcut hun)
    simp only [Except.error.injEq, Rejection.invalidUtf8.injEq] at hreason
    have hletters := congrArg (fun s => s.toList.take 3) hreason
    simp at hletters
  obtain ⟨part, hpart, hle, hreason⟩ := hwrong hun
  rw [hmessage, Except.error.injEq, Rejection.invalidUtf8.injEq] at hreason
  exact ⟨h, text, rest, hpayload, htext, hun, part, hpart, hle, hreason⟩

end Identifier
end Dispatch
end Remedy
