/-
# What is kept of an output

A reader takes an output chunk by chunk, and trims what it keeps only when that has grown to more
than twice what is shown.  So how much is kept depends on the chunks, but every step keeps the end
of what has been read (`Keeps`): no less than is shown, no more than twice as much, and all of it
while there is no more than that.  Hence the end of an output is kept whatever its chunks are, and
the buffer stays within twice the size of a chunk (`end_of_output_kept`).
-/

import Mathlib.Data.List.Infix
import Remedy.Execution.Output

namespace Remedy
namespace Execution
namespace Output

variable {stream held chunk buffer : List UInt8} {reads rest : List Read}

/-- **What is kept of what has been read.** -/
structure Keeps (stream held : List UInt8) : Prop where
  suffix : held <:+ stream
  most : held.length ≤ 2 * shown
  least : min stream.length shown ≤ held.length
  whole : stream.length ≤ 2 * shown → held = stream

/-- What the buffer holds at some time while an output is read: before a read, or when the chunk
that was read is in it and nothing has been trimmed yet. -/
inductive Holds : List UInt8 → List Read → List UInt8 → Prop
  | now (held : List UInt8) (reads : List Read) : Holds held reads held
  | filled {held chunk : List UInt8} (hne : chunk ≠ []) (rest : List Read) :
      Holds held (.bytes chunk :: rest) (held ++ chunk)
  | later {held chunk buffer : List UInt8} {rest : List Read} (hne : chunk ≠ [])
      (h : Holds (keep held chunk) rest buffer) : Holds held (.bytes chunk :: rest) buffer

/-- Whether reading goes no further: there is no more, or it failed. -/
def Read.Ends (r : Read) : Prop := r = .bytes [] ∨ r = .failure

/-- Reading ends at the end, and what is held is kept. -/
theorem readOn_of_ends {r : Read} (hr : r.Ends) : readOn held (r :: rest) = held := by
  rcases hr with rfl | rfl <;> rfl

/-- A chunk that is not empty is added, and reading goes on. -/
theorem readOn_of_ne_nil (hne : chunk ≠ []) :
    readOn held (.bytes chunk :: rest) = readOn (keep held chunk) rest := by
  obtain ⟨b, chunk, rfl⟩ := List.exists_cons_of_ne_nil hne
  rfl

/-! ### One step -/

/-- What has grown too long is trimmed. -/
theorem keep_of_lt (h : 2 * shown < (held ++ chunk).length) :
    keep held chunk = (held ++ chunk).drop ((held ++ chunk).length - shown) := if_pos h

/-- All is kept otherwise. -/
theorem keep_of_not_lt (h : ¬2 * shown < (held ++ chunk).length) :
    keep held chunk = held ++ chunk := if_neg h

/-- No more is ever held than twice what is shown. -/
theorem length_keep_le (held chunk : List UInt8) : (keep held chunk).length ≤ 2 * shown := by
  by_cases hlt : 2 * shown < (held ++ chunk).length
  · rw [keep_of_lt hlt, List.length_drop]
    omega
  · rw [keep_of_not_lt hlt]
    exact Nat.le_of_not_lt hlt

/-- **A step keeps the end:** it is of what has been read with the chunk. -/
theorem Keeps.keep (h : Keeps stream held) (chunk : List UInt8) :
    Keeps (stream ++ chunk) (keep held chunk) := by
  have hmost := length_keep_le held chunk
  have hleast := h.least
  have hall : held ++ chunk <:+ stream ++ chunk := by
    obtain ⟨before, rfl⟩ := h.suffix
    exact ⟨before, (List.append_assoc ..).symm⟩
  by_cases hlt : 2 * shown < (held ++ chunk).length
  · rw [keep_of_lt hlt] at hmost ⊢
    refine ⟨(List.drop_suffix _ _).trans hall, hmost, ?_, fun hle => ?_⟩
    · rw [List.length_drop]
      omega
    · -- the stream is as long as what is kept of it, which is too long with the chunk
      have hlength := h.suffix.length_le
      rw [List.length_append] at hle hlt
      omega
  · rw [keep_of_not_lt hlt] at hmost ⊢
    refine ⟨hall, hmost, ?_, fun hle => ?_⟩
    · rw [List.length_append, List.length_append]
      omega
    · rw [List.length_append] at hle
      rw [h.whole (by omega)]

/-! ### All steps -/

/-- **What is kept in the end** is the end of all that has been read. -/
theorem Keeps.readOn {chunks : List (List UInt8)} {last : Read} (h : Keeps stream held)
    (hchunks : ∀ chunk ∈ chunks, chunk ≠ []) (hlast : last.Ends) (rest : List Read) :
    Keeps (stream ++ chunks.flatten) (readOn held (chunks.map Read.bytes ++ last :: rest)) := by
  induction chunks generalizing stream held with
  | nil => rwa [List.map_nil, List.nil_append, readOn_of_ends hlast, List.flatten_nil,
      List.append_nil]
  | cons chunk chunks ih =>
    obtain ⟨hne, hrest⟩ := List.forall_mem_cons.1 hchunks
    have hstep := ih (h.keep chunk) hrest
    rwa [List.append_assoc, ← List.flatten_cons, ← readOn_of_ne_nil hne] at hstep

/-- **The buffer never holds more** than is kept and a chunk. -/
theorem Holds.length_le {chunks : List (List UInt8)} {last : Read}
    (h : Holds held (chunks.map Read.bytes ++ last :: rest) buffer)
    (hheld : held.length ≤ 2 * shown)
    (hchunks : ∀ chunk ∈ chunks, chunk.length ≤ chunkSize) (hlast : last.Ends) :
    buffer.length ≤ 2 * shown + chunkSize := by
  induction chunks generalizing held with
  | nil =>
    have hend : ∀ {chunk : List UInt8}, chunk ≠ [] → last ≠ .bytes chunk := by
      rintro chunk hne rfl
      rcases hlast with hbytes | hfailure
      · exact hne (Read.bytes.inj hbytes)
      · cases hfailure
    cases h with
    | now => omega
    | filled hne => exact absurd rfl (hend hne)
    | later hne => exact absurd rfl (hend hne)
  | cons chunk chunks ih =>
    obtain ⟨hle, hrest⟩ := List.forall_mem_cons.1 hchunks
    cases h with
    | now => omega
    | filled =>
      rw [List.length_append]
      omega
    | later _ h => exact ih h (length_keep_le held chunk) hrest

/-- Nothing is kept of nothing. -/
theorem keeps_nil : Keeps [] [] :=
  ⟨List.suffix_refl _, Nat.zero_le _, Nat.le_refl _, fun _ => rfl⟩

/-- **The end of an output is kept,** however it is read in chunks of up to 4096 bytes until there
is no more or reading fails.  What is kept is the end of it, at most 4096 bytes, and at least 2048
if there are as many.  So it ends in the last 2048 bytes, and it is all of an output that has no
more than 4096.  The buffer never holds more than 8192 bytes. -/
theorem end_of_output_kept {chunks : List (List UInt8)} {last : Read}
    (hchunks : ∀ chunk ∈ chunks, 1 ≤ chunk.length ∧ chunk.length ≤ 4096)
    (hlast : last = .bytes [] ∨ last = .failure) (rest : List Read) :
    let stream := chunks.flatten
    let reads := chunks.map Read.bytes ++ last :: rest
    let held := readTail (some reads)
    held <:+ stream ∧ held.length ≤ 4096 ∧ min stream.length 2048 ≤ held.length ∧
      stream.drop (stream.length - 2048) <:+ held ∧ (stream.length ≤ 4096 → held = stream) ∧
      ∀ buffer, Holds [] reads buffer → buffer.length ≤ 8192 := by
  intro stream reads held
  have hne : ∀ chunk ∈ chunks, chunk ≠ [] := fun chunk hchunk =>
    List.length_pos_iff.1 (hchunks chunk hchunk).1
  have h : Keeps stream held := keeps_nil.readOn hne hlast rest
  have hleast : min stream.length 2048 ≤ held.length := h.least
  refine ⟨h.suffix, h.most, hleast, ?_, h.whole, fun buffer hbuffer => ?_⟩
  · refine List.suffix_of_suffix_length_le (List.drop_suffix _ _) h.suffix ?_
    rw [List.length_drop]
    omega
  · exact hbuffer.length_le (Nat.zero_le _) (fun chunk hchunk => (hchunks chunk hchunk).2) hlast

/-- Three chunks, after which reading fails: the first two are trimmed, and what comes after the
failure is not read. -/
theorem end_of_output_kept_of_failure :
    let chunks := [List.replicate 4000 (0 : UInt8), List.replicate 97 1, List.replicate 3 2]
    let held := readTail (some (chunks.map Read.bytes ++ [.failure, .bytes [3]]))
    (∀ chunk ∈ chunks, 1 ≤ chunk.length ∧ chunk.length ≤ 4096) ∧
      held = List.replicate 1951 0 ++ List.replicate 97 1 ++ List.replicate 3 2 ∧
      held <:+ chunks.flatten ∧ min chunks.flatten.length 2048 ≤ held.length := by
  intro chunks held
  have hchunks : ∀ chunk ∈ chunks, 1 ≤ chunk.length ∧ chunk.length ≤ 4096 := by
    simp only [chunks, List.forall_mem_cons, List.length_replicate]
    exact ⟨by decide, by decide, by decide, fun _ h => absurd h List.not_mem_nil⟩
  obtain ⟨hsuffix, -, hleast, -⟩ := end_of_output_kept hchunks (.inr rfl) [.bytes [3]]
  refine ⟨hchunks, ?_, hsuffix, hleast⟩
  decide +kernel

end Output
end Execution
end Remedy
