/-
# What a preview tells of a payload

A preview is the escapes of the first characters of a payload and, if there are more, of three
points: a point is its own escape.  So a preview holds nothing that ends a line or steers a
terminal, and it tells the first characters and whether there are more (`preview_tells`): points at
the end of a payload are not mistaken for the mark of a cut, since a cut preview has more characters
than one that is whole.
-/

import Remedy.Consumer.Run
import Remedy.Proofs.Text.Escape
import Remedy.Proofs.Text.Faults

namespace Remedy
namespace Consumer

open Text (escapeBare)
open Text.Utf8 (decodeLossy encode Lossy)

/-- The characters that a preview shows, with the mark of a cut. -/
def previewed (cs : List Char) : List Char :=
  cs.take previewLength ++ if previewLength < cs.length then ['.', '.', '.'] else []

/-- The mark of a cut is its own escape. -/
theorem flatMap_escapeBare_mark : ['.', '.', '.'].flatMap escapeBare = ['.', '.', '.'] := by decide

/-- A preview by its characters: the first ones escaped, and a mark if there are more. -/
theorem toList_preview (payload : List UInt8) :
    (preview payload).toList = ((decodeLossy payload).take previewLength).flatMap escapeBare ++
      if previewLength < (decodeLossy payload).length then ['.', '.', '.'] else [] := by
  rw [preview, String.toList_ofList]
  split
  · rfl
  · rw [List.append_nil]

/-- **A preview is the escapes of the characters that it shows.** -/
theorem toList_preview_eq_flatMap (payload : List UInt8) :
    (preview payload).toList = (previewed (decodeLossy payload)).flatMap escapeBare := by
  rw [toList_preview, previewed, List.flatMap_append]
  split
  · rw [flatMap_escapeBare_mark]
  · rfl

/-- **What is shown tells the first characters and whether there are more.** -/
theorem previewed_eq_iff {cs ds : List Char} :
    previewed cs = previewed ds ↔
      cs.take previewLength = ds.take previewLength ∧
        (previewLength < cs.length ↔ previewLength < ds.length) := by
  have hlength : ∀ es : List Char, (previewed es).length =
      if previewLength < es.length then previewLength + 3 else es.length := by
    intro es
    rw [previewed, List.length_append, List.length_take]
    split
    · rw [Nat.min_eq_left (by omega)]
      rfl
    · rw [Nat.min_eq_right (by omega)]
      rfl
  constructor
  · intro h
    -- what is cut is longer than what is not
    have hmore : previewLength < cs.length ↔ previewLength < ds.length := by
      have hsame := congrArg List.length h
      rw [hlength, hlength] at hsame
      split at hsame <;> split at hsame <;> omega
    refine ⟨?_, hmore⟩
    rw [previewed, previewed, if_congr hmore rfl rfl] at h
    exact List.append_cancel_right h
  · rintro ⟨htake, hmore⟩
    rw [previewed, previewed, htake, if_congr hmore rfl rfl]

/-- Previews are the same if and only if they show the same characters. -/
theorem preview_eq_iff {payload payload' : List UInt8} :
    preview payload = preview payload' ↔
      previewed (decodeLossy payload) = previewed (decodeLossy payload') := by
  rw [← String.toList_inj, toList_preview_eq_flatMap, toList_preview_eq_flatMap,
    Text.flatMap_escapeBare_inj]

/-- All of a preview stands in a line. -/
theorem standsInLine_of_mem_preview {payload : List UInt8} {c : Char}
    (hc : c ∈ (preview payload).toList) : Text.StandsInLine c := by
  rw [toList_preview_eq_flatMap] at hc
  obtain ⟨x, -, hx⟩ := List.mem_flatMap.1 hc
  exact Text.standsInLine_of_mem_escapeBare hx

/-- **What a preview tells.**  It holds no control character and no separator of lines or
paragraphs.  It is the escapes of the first 128 characters of what the payload is read as, and three
points after them if and only if there are more.  The previews of two texts are the same if and only
if the first 128 characters are and both or neither have more. -/
theorem preview_tells :
    (∀ payload,
      (∀ c ∈ (preview payload).toList, 0x20 ≤ c.toNat ∧ ¬(0x7F ≤ c.toNat ∧ c.toNat < 0xA0) ∧
        c.toNat ≠ 0x2028 ∧ c.toNat ≠ 0x2029) ∧
      ∃ cs, Lossy payload cs ∧ (preview payload).toList =
        (cs.take 128).flatMap escapeBare ++ if 128 < cs.length then "...".toList else []) ∧
    ∀ cs ds, preview (encode cs) = preview (encode ds) ↔
      cs.take 128 = ds.take 128 ∧ (128 < cs.length ↔ 128 < ds.length) := by
  refine ⟨fun payload => ⟨fun c hc => ?_, decodeLossy payload, Text.Utf8.lossy_iff.2 rfl,
    toList_preview payload⟩, fun cs ds => ?_⟩
  · obtain ⟨hcontrol, hline⟩ := standsInLine_of_mem_preview hc
    simp only [Character.isControl, Bool.or_eq_false_iff, decide_eq_false_iff_not,
      Bool.and_eq_false_iff] at hcontrol
    simp only [Character.isLineSeparator, Bool.or_eq_false_iff, decide_eq_false_iff_not] at hline
    omega
  · rw [preview_eq_iff, Text.Utf8.decodeLossy_encode, Text.Utf8.decodeLossy_encode,
      previewed_eq_iff]
    rfl

/-- A line break and a separator of lines that are shown by their escapes. -/
theorem preview_tells_of_breaks :
    let payload : List UInt8 := [0x77, 0x0A, 0xE2, 0x80, 0xA8]
    preview payload = "w\\n\\u\x7b2028\x7d" ∧ '\\' ∈ (preview payload).toList ∧
      0x20 ≤ '\\'.toNat ∧ ¬(0x7F ≤ '\\'.toNat ∧ '\\'.toNat < 0xA0) ∧ '\\'.toNat ≠ 0x2028 ∧
        '\\'.toNat ≠ 0x2029 := by
  intro payload
  have hpreview : preview payload = "w\\n\\u\x7b2028\x7d" := by decide
  have hmem : '\\' ∈ (preview payload).toList := by
    rw [hpreview]
    decide
  exact ⟨hpreview, hmem, (preview_tells.1 payload).1 '\\' hmem⟩

end Consumer
end Remedy
