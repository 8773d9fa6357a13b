/-
# Bytes that are no text

Where bytes stop being a text there is a faulty stretch: as many bytes as a character can begin
with, but one at least (`IsFault`).  That is said by the encodings of characters alone.  The reader
stops at the first such stretch and tells where it is (`tells_of_decode`), and the tolerant reader
puts one character in the place of each (`lossy_iff`).

Within a character the reader has read some bytes that open it (`Opened`).  Some character begins
with these and goes on after them (`Opened.unfinished`), and where a byte is wrong none does
(`Opened.not_begins`), and so both readers find the stretches as they are.
-/

import Remedy.Proofs.Text.Utf8

namespace Remedy
namespace Text
namespace Utf8

/-! ### Faulty stretches -/

/-- Whether bytes are a text. -/
def WellFormed (bytes : List UInt8) : Prop := ∃ cs, encode cs = bytes

/-- Whether some character begins with these bytes. -/
def Begins (bytes : List UInt8) : Prop := ∃ c, bytes <+: String.utf8EncodeChar c

/-- Whether some character begins with these bytes and goes on after them. -/
def Unfinished (bytes : List UInt8) : Prop :=
  ∃ c, bytes <+: String.utf8EncodeChar c ∧ bytes ≠ String.utf8EncodeChar c

/-- Whether a part is the longest with some property at the front of bytes. -/
structure Longest (p : List UInt8 → Prop) (part bytes : List UInt8) : Prop where
  front : part <+: bytes
  holds : p part
  longest : ∀ other, other <+: bytes → p other → other.length ≤ part.length

/-- **A faulty stretch** of bytes and the rest after it: no character stands at the front, and no
character begins with more bytes than the stretch has; if none begins with as many as one, the
stretch is one byte. -/
structure IsFault (bad rest : List UInt8) : Prop where
  nonempty : bad ≠ []
  malformed : ∀ c, ¬String.utf8EncodeChar c <+: bad ++ rest
  begins : Begins bad ∨ bad.length = 1
  longest : ∀ bytes, bytes <+: bad ++ rest → Begins bytes → bytes.length ≤ bad.length

/-- **What bytes are read as** when one character stands for each faulty stretch. -/
inductive Lossy : List UInt8 → List Char → Prop
  | nil : Lossy [] []
  | char (c : Char) {rest : List UInt8} {cs : List Char} (h : Lossy rest cs) :
      Lossy (String.utf8EncodeChar c ++ rest) (c :: cs)
  | fault {bad rest : List UInt8} {cs : List Char} (hbad : IsFault bad rest) (h : Lossy rest cs) :
      Lossy (bad ++ rest) (replacement :: cs)

variable {bs ds bad rest : List UInt8} {o p : Open} {b : UInt8} {c d : Char}

/-! ### Characters at the front -/

/-- No character is a part of the beginning of another. -/
theorem eq_of_prefix_utf8EncodeChar (h : String.utf8EncodeChar c <+: String.utf8EncodeChar d) :
    c = d := by
  obtain ⟨after, hafter⟩ := h
  have hd := decode_encode [d]
  rw [encode_cons, encode_nil, List.append_nil, ← hafter, decode, decodeFrom_utf8EncodeChar] at hd
  obtain ⟨cs, -, hcs⟩ := map_eq_ok_iff.1 hd
  exact (List.cons.inj hcs).1

/-- Only one character can be at the front. -/
theorem eq_of_prefixes {bytes : List UInt8} (hc : String.utf8EncodeChar c <+: bytes)
    (hd : String.utf8EncodeChar d <+: bytes) : c = d := by
  rcases List.prefix_or_prefix_of_prefix hc hd with h | h
  · exact eq_of_prefix_utf8EncodeChar h
  · exact (eq_of_prefix_utf8EncodeChar h).symm

/-- What begins a character has beginnings that do. -/
theorem Begins.mono (h : Begins ds) (hbs : bs <+: ds) : Begins bs := by
  obtain ⟨c, hc⟩ := h
  exact ⟨c, hbs.trans hc⟩

/-- A character that is not finished has begun. -/
theorem Unfinished.begins (h : Unfinished bs) : Begins bs := by
  obtain ⟨c, hc, -⟩ := h
  exact ⟨c, hc⟩

/-- A beginning of a character that goes on is a faulty stretch before what does not go on with
it. -/
theorem Unfinished.isFault (h : Unfinished bs) (hne : bs ≠ [])
    (hrest : ∀ b ∈ rest.head?, ¬Begins (bs ++ [b])) : IsFault bs rest := by
  have hlongest : ∀ bytes, bytes <+: bs ++ rest → Begins bytes → bytes.length ≤ bs.length := by
    intro bytes hbytes hbegins
    refine Nat.le_of_not_lt fun hlt => ?_
    obtain ⟨more, rfl⟩ := List.prefix_of_prefix_length_le (List.prefix_append bs rest) hbytes
      (Nat.le_of_lt hlt)
    cases more with
    | nil =>
      rw [List.append_nil] at hlt
      exact Nat.lt_irrefl _ hlt
    | cons b more =>
      obtain ⟨after, rfl⟩ := (List.prefix_append_right_inj bs).1 hbytes
      exact hrest b rfl (hbegins.mono ⟨more, by rw [List.append_assoc]; rfl⟩)
  refine ⟨hne, fun c hc => ?_, .inl h.begins, hlongest⟩
  have hlength := hlongest _ hc ⟨c, List.prefix_refl _⟩
  have hbs := List.prefix_of_prefix_length_le hc (List.prefix_append bs rest) hlength
  obtain ⟨d, hd, hproper⟩ := h
  obtain rfl := eq_of_prefix_utf8EncodeChar (hbs.trans hd)
  exact hproper (hd.eq_of_length_le hbs.length_le)

/-- A byte with which no character begins is a faulty stretch. -/
theorem isFault_singleton (h : ¬Begins [b]) : IsFault [b] rest := by
  have hnil : ∀ bytes, bytes <+: [b] ++ rest → Begins bytes → bytes = [] := by
    intro bytes hbytes hbegins
    cases bytes with
    | nil => rfl
    | cons x bytes =>
      obtain ⟨rfl, -⟩ := List.cons_prefix_cons.1 hbytes
      exact absurd (hbegins.mono (List.prefix_append [x] bytes)) h
  refine ⟨List.cons_ne_nil _ _, fun c hc => ?_, .inr rfl, fun bytes hbytes hbegins => ?_⟩
  · exact String.utf8EncodeChar_ne_nil (hnil _ hc ⟨c, List.prefix_refl _⟩)
  · rw [hnil bytes hbytes hbegins]
    exact Nat.zero_le _

/-- **The bytes from a faulty stretch on are the beginning of a character** if and only if there is
nothing after it and it is such a beginning. -/
theorem IsFault.unfinished_iff (h : IsFault bad rest) :
    Unfinished (bad ++ rest) ↔ rest = [] ∧ Begins bad := by
  constructor
  · intro hun
    have hlength := h.longest _ (List.prefix_refl _) hun.begins
    have hrest : rest = [] := by
      rw [List.length_append] at hlength
      exact List.length_eq_zero_iff.1 (by omega)
    exact ⟨hrest, hun.begins.mono (List.prefix_append bad rest)⟩
  · rintro ⟨rfl, c, hc⟩
    exact ⟨c, by rwa [List.append_nil], fun heq => h.malformed c (heq ▸ List.prefix_refl _)⟩

/-- A faulty stretch is no character, so it has three bytes at most. -/
theorem IsFault.length_le (h : IsFault bad rest) : bad.length ≤ 3 := by
  rcases h.begins with ⟨c, hc⟩ | hone
  · have hproper : bad ≠ String.utf8EncodeChar c := by
      rintro rfl
      exact h.malformed c (List.prefix_append _ rest)
    have hlength : bad.length ≠ (String.utf8EncodeChar c).length := fun heq =>
      hproper (hc.eq_of_length heq)
    have hle := hc.length_le
    have hfour := c.utf8Size_le_four
    rw [String.length_utf8EncodeChar] at hle hlength
    omega
  · rw [hone]
    decide

/-- **A faulty stretch is as long as the longest beginning of a character,** or one byte if that is
empty. -/
theorem IsFault.exists_longest (h : IsFault bad rest) :
    ∃ part, Longest Begins part (bad ++ rest) ∧ bad.length = max 1 part.length := by
  by_cases hbegins : Begins bad
  · refine ⟨bad, ⟨List.prefix_append bad rest, hbegins, h.longest⟩, ?_⟩
    have hpos := List.length_pos_iff.2 h.nonempty
    omega
  · have hone := h.begins.resolve_left hbegins
    refine ⟨[], ⟨List.nil_prefix, ⟨'a', List.nil_prefix⟩, fun other hother hbegins' => ?_⟩, hone⟩
    have hle := h.longest other hother hbegins'
    refine Nat.le_of_not_lt fun hpos => hbegins ?_
    have hfront := List.prefix_of_prefix_length_le hother (List.prefix_append bad rest) hle
    rwa [← hfront.eq_of_length (by rw [List.length_nil] at hpos; omega)]

/-- There is one faulty stretch at the front. -/
theorem IsFault.unique {bad' rest' : List UInt8} (h : IsFault bad rest) (h' : IsFault bad' rest')
    (heq : bad ++ rest = bad' ++ rest') : bad = bad' ∧ rest = rest' := by
  have hle : ∀ {bad rest bad' rest' : List UInt8}, IsFault bad rest → IsFault bad' rest' →
      bad ++ rest = bad' ++ rest' → bad'.length ≤ bad.length := by
    intro bad rest bad' rest' h h' heq
    rcases h'.begins with hbegins | hone
    · exact h.longest bad' (heq ▸ List.prefix_append bad' rest') hbegins
    · have hpos := List.length_pos_iff.2 h.nonempty
      omega
  exact List.append_inj heq (Nat.le_antisymm (hle h' h heq.symm) (hle h h' heq))

/-! ### What has been read of a character -/

/-- Whether some bytes open a character, which then is as given. -/
inductive Opened : List UInt8 → Open → Prop
  | first {b : UInt8} {o : Open} (h : lead b = .opens o) : Opened [b] o
  | next {bs : List UInt8} {o p : Open} {b : UInt8} (hbs : Opened bs o) (h : o.next b = .more p) :
      Opened (bs ++ [b]) p

/-- A character that is open has begun with some byte. -/
theorem Opened.ne_nil (h : Opened bs o) : bs ≠ [] := by
  cases h with
  | first => exact List.cons_ne_nil _ _
  | next => exact List.append_ne_nil_of_right_ne_nil _ (List.cons_ne_nil _ _)

/-- An open character counts its bytes, is owed one more, of which there is one within its bounds,
and has four in all at most. -/
theorem Opened.bounds (h : Opened bs o) :
    o.seen = bs.length ∧ 1 ≤ o.owed ∧ bs.length + o.owed ≤ 4 ∧ o.least ≤ o.most ∧ o.most < 256 := by
  induction h with
  | first h =>
    rw [List.length_singleton]
    rcases opens_cases h with ⟨k, -, -, -, rfl⟩ | ⟨k, -, -, rfl⟩ | ⟨k, -, -, rfl⟩ <;> dsimp only
    · omega
    · split_ifs <;> omega
    · split_ifs <;> omega
  | next _ h ih =>
    obtain ⟨-, -, howed, rfl⟩ := Open.next_eq_more_iff.1 h
    simp only [List.length_append, List.length_singleton]
    omega

/-- A byte more completes a character if what it leads to is completed. -/
theorem Open.completes_cons_iff (h : o.next b = .more p) :
    o.Completes (b :: ds) c ↔ p.Completes ds c := by
  constructor
  · intro hcons
    cases hcons with
    | done hdone =>
      rw [h] at hdone
      cases hdone
    | more hmore hp =>
      rw [h, Next.more.injEq] at hmore
      rwa [hmore]
  · exact .more h

/-- **What completes a character** is what its encoding goes on with. -/
theorem Opened.completes_iff (h : Opened bs o) :
    o.Completes ds c ↔ String.utf8EncodeChar c = bs ++ ds := by
  induction h generalizing ds with
  | @first b o h =>
    constructor
    · exact utf8EncodeChar_of_completes h
    · intro hc
      rcases exists_lead c with ⟨b', hb', hlead⟩ | ⟨b', bs', o', hb', hlead, hcompletes⟩
      · obtain ⟨rfl, -⟩ := List.cons.inj (hb'.symm.trans hc)
        rw [h] at hlead
        cases hlead
      · obtain ⟨rfl, rfl⟩ := List.cons.inj (hb'.symm.trans hc)
        rw [h, Lead.opens.injEq] at hlead
        rwa [hlead]
  | next _ h ih => rw [← Open.completes_cons_iff h, ih, List.append_assoc, List.singleton_append]

/-- An open character can be completed. -/
theorem Open.exists_completes {bits seen least most : Nat} (hle : least ≤ most) (hlt : most < 256)
    (owed : Nat) : ∃ ds c, Completes ⟨bits, seen, owed + 1, least, most⟩ ds c := by
  have hb : (UInt8.ofNat least).toNat = least := toNat_ofNat_of_lt (Nat.lt_of_le_of_lt hle hlt)
  induction owed generalizing bits seen least most with
  | zero => exact ⟨_, _, completes_one_iff.2 ⟨UInt8.ofNat least, rfl, by omega, by omega, rfl⟩⟩
  | succ owed ih =>
    obtain ⟨ds, c, hds⟩ : ∃ ds c, Completes ⟨64 * bits + ((UInt8.ofNat least).toNat - 0x80),
        seen + 1, owed + 1, 0x80, 0xBF⟩ ds c := ih (by decide) (by decide) (by decide)
    exact ⟨_, c, completes_succ_iff.2 ⟨UInt8.ofNat least, ds, rfl, by omega, by omega, hds⟩⟩

/-- Some character begins with the bytes that open one, and goes on after them. -/
theorem Opened.unfinished (h : Opened bs o) : Unfinished bs := by
  obtain ⟨-, howed, -, hle, hlt⟩ := h.bounds
  obtain ⟨owed, howed⟩ := Nat.exists_eq_add_of_le' howed
  obtain ⟨ds, c, hds⟩ : ∃ ds c, o.Completes ds c := by
    obtain ⟨bits, seen, _, least, most⟩ := o
    obtain rfl := howed
    exact Open.exists_completes hle hlt owed
  have hne : ds ≠ [] := by
    cases hds with
    | done => exact List.cons_ne_nil _ _
    | more => exact List.cons_ne_nil _ _
  have hc := h.completes_iff.1 hds
  refine ⟨c, ⟨ds, hc.symm⟩, fun heq => hne ?_⟩
  rw [hc] at heq
  exact List.self_eq_append_right.1 heq

/-- Where the reader finds a byte wrong, no character goes on with it. -/
theorem Opened.not_begins (h : Opened bs o) (hb : o.next b = .wrong) : ¬Begins (bs ++ [b]) := by
  rintro ⟨c, ds, hc⟩
  rw [List.append_assoc, List.singleton_append] at hc
  cases h.completes_iff.2 hc.symm with
  | done hdone =>
    rw [hb] at hdone
    cases hdone
  | more hmore _ =>
    rw [hb] at hmore
    cases hmore

/-- A wrong byte begins nothing. -/
theorem not_begins_of_wrong (hb : lead b = .wrong) : ¬Begins [b] := by
  rintro ⟨c, ds, hc⟩
  rcases exists_lead c with ⟨b', hb', hlead⟩ | ⟨b', bs', o, hb', hlead, -⟩
  · obtain ⟨rfl, -⟩ := List.cons.inj (hc.trans hb')
    rw [hb] at hlead
    cases hlead
  · obtain ⟨rfl, -⟩ := List.cons.inj (hc.trans hb')
    rw [hb] at hlead
    cases hlead

/-- A byte with which no character can begin is a faulty stretch, whatever comes after it. -/
theorem isFault_of_wrong (hb : lead b = .wrong) : IsFault [b] rest :=
  isFault_singleton (not_begins_of_wrong hb)

/-- So are the bytes that open a character, if nothing comes after them. -/
theorem Opened.isFault (h : Opened bs o) : IsFault bs [] :=
  h.unfinished.isFault h.ne_nil fun b hb => by cases hb

/-- And so they are if what comes after them is wrong. -/
theorem Opened.isFault_of_wrong (h : Opened bs o) (hb : o.next b = .wrong) :
    IsFault bs (b :: rest) := by
  refine h.unfinished.isFault h.ne_nil fun x hx => ?_
  obtain rfl := Option.some.inj hx
  exact h.not_begins hb

/-- The last byte of a character makes it whole. -/
theorem Opened.utf8EncodeChar_of_done (h : Opened bs o) (hb : o.next b = .done c) :
    String.utf8EncodeChar c = bs ++ [b] :=
  h.completes_iff.1 (.done hb)

/-- What has been read since the last whole character: nothing, or bytes that open one. -/
inductive Reading : List UInt8 → Option Open → Prop
  | start : Reading [] none
  | within {bs : List UInt8} {o : Open} (h : Opened bs o) : Reading bs (some o)

/-! ### The reader -/

/-- **What a fault tells of bytes** that begin at an index: at which index characters end, and then
that the rest is the beginning of one, or how long the faulty stretch there is. -/
inductive Tells : Fault → Nat → List UInt8 → Prop
  | incomplete {index : Nat} {bad : List UInt8} (hbad : IsFault bad []) (hun : Unfinished bad) :
      Tells ⟨index, none⟩ index bad
  | wrong {index : Nat} {bad rest : List UInt8} (hbad : IsFault bad rest)
      (hun : ¬Unfinished (bad ++ rest)) : Tells ⟨index, some bad.length⟩ index (bad ++ rest)
  | char (c : Char) {f : Fault} {index : Nat} {bytes : List UInt8}
      (h : Tells f (index + (String.utf8EncodeChar c).length) bytes) :
      Tells f index (String.utf8EncodeChar c ++ bytes)

/-- A wrong byte in an open character is told with the number of bytes before it. -/
theorem Opened.tells_of_wrong (h : Opened bs o) (hb : o.next b = .wrong) (index : Nat) :
    Tells ⟨index, some o.seen⟩ index (bs ++ b :: rest) := by
  have hbad : IsFault bs (b :: rest) := h.isFault_of_wrong hb
  rw [h.bounds.1]
  refine .wrong hbad fun hun => ?_
  cases (hbad.unfinished_iff.1 hun).1

/-- A wrong byte that begins nothing is told as one. -/
theorem tells_of_wrong (hb : lead b = .wrong) (index : Nat) :
    Tells ⟨index, some 1⟩ index (b :: rest) := by
  have hbad : IsFault [b] rest := isFault_of_wrong hb
  exact .wrong hbad fun hun => not_begins_of_wrong hb (hbad.unfinished_iff.1 hun).2

/-- **The reader tells a fault as it is.** -/
theorem tells_of_decodeFrom {bytes : List UInt8} {index : Nat} {state : Option Open} {f : Fault}
    (hbs : Reading bs state) (h : decodeFrom index state bytes = .error f) :
    Tells f index (bs ++ bytes) := by
  induction bytes generalizing index state bs with
  | nil =>
    cases hbs with
    | start => cases h
    | within hbs =>
      cases h
      rw [List.append_nil]
      exact .incomplete hbs.isFault hbs.unfinished
  | cons b bytes ih =>
    cases hbs with
    | start =>
      rw [decodeFrom] at h
      split at h
      · next c hb =>
        have hc := utf8EncodeChar_of_whole hb
        have hrest : Tells f (index + (String.utf8EncodeChar c).length) bytes := by
          rw [hc]
          exact ih .start (map_eq_error_iff.1 h)
        have hwhole := hrest.char c
        rwa [hc] at hwhole
      · next o hb => exact ih (.within (.first hb)) h
      · next hb =>
        cases h
        exact tells_of_wrong hb index
    | @within _ o hbs =>
      rw [decodeFrom] at h
      split at h
      · next c hb =>
        have hc := hbs.utf8EncodeChar_of_done hb
        have hrest : Tells f (index + (String.utf8EncodeChar c).length) bytes := by
          rw [hc, List.length_append, List.length_singleton, ← hbs.bounds.1, ← Nat.add_assoc]
          exact ih .start (map_eq_error_iff.1 h)
        have hwhole := hrest.char c
        rwa [hc, List.append_assoc] at hwhole
      · next p hb =>
        have hrest := ih (.within (.next hbs hb)) h
        rwa [List.append_assoc] at hrest
      · next hb =>
        cases h
        exact hbs.tells_of_wrong hb index

/-- **What decoding tells is where and how much is wrong.** -/
theorem tells_of_decode {bytes : List UInt8} {f : Fault} (h : decode bytes = .error f) :
    Tells f 0 bytes :=
  tells_of_decodeFrom .start h

/-- Bytes are a text if and only if they can be read. -/
theorem wellFormed_iff {bytes : List UInt8} : WellFormed bytes ↔ ∃ cs, decode bytes = .ok cs :=
  exists_congr fun _ => decode_eq_ok_iff.symm

/-- **Of which bytes a fault tells:** a text up to its index, and then a faulty stretch. -/
theorem Tells.exists_fault {bytes : List UInt8} {index : Nat} {f : Fault}
    (h : Tells f index bytes) :
    ∃ cs bad rest, bytes = encode cs ++ (bad ++ rest) ∧ IsFault bad rest ∧
      f.index = index + (encode cs).length ∧
      (Unfinished (bad ++ rest) → f.wrong = none) ∧
      (¬Unfinished (bad ++ rest) → f.wrong = some bad.length) := by
  induction h with
  | @incomplete _ bad hbad hun =>
    refine ⟨[], bad, [], (List.append_nil bad).symm, hbad, rfl, fun _ => rfl, fun hnot => ?_⟩
    rw [List.append_nil] at hnot
    exact absurd hun hnot
  | wrong hbad hun => exact ⟨[], _, _, rfl, hbad, rfl, fun h => absurd h hun, fun _ => rfl⟩
  | char c _ ih =>
    obtain ⟨cs, bad, rest, rfl, hbad, hindex, hwrong⟩ := ih
    refine ⟨c :: cs, bad, rest, ?_, hbad, ?_, hwrong⟩
    · rw [encode_cons, List.append_assoc]
    · rw [hindex, encode_cons, List.length_append, Nat.add_assoc]

/-- A text at the front of bytes with a fault does not go on into the fault. -/
theorem IsFault.prefix_of_encode {cs es : List Char} (h : IsFault bad rest)
    (hes : encode es <+: encode cs ++ (bad ++ rest)) : encode es <+: encode cs := by
  induction es generalizing cs with
  | nil => exact List.nil_prefix
  | cons e es ih =>
    rw [encode_cons] at hes
    cases cs with
    | nil =>
      rw [encode_nil, List.nil_append] at hes
      exact absurd ((List.prefix_append _ _).trans hes) (h.malformed e)
    | cons c cs =>
      rw [encode_cons, List.append_assoc] at hes
      obtain rfl := eq_of_prefixes ((List.prefix_append _ _).trans hes)
        (List.prefix_append (String.utf8EncodeChar c) _)
      rw [encode_cons, encode_cons, List.prefix_append_right_inj]
      exact ih ((List.prefix_append_right_inj _).1 hes)

/-- **What is read before a fault is the longest text** at the front of the bytes. -/
theorem IsFault.longest_encode (h : IsFault bad rest) (cs : List Char) :
    Longest WellFormed (encode cs) (encode cs ++ (bad ++ rest)) := by
  refine ⟨List.prefix_append _ _, ⟨cs, rfl⟩, ?_⟩
  rintro _ hother ⟨es, rfl⟩
  exact (h.prefix_of_encode hother).length_le

/-! ### The tolerant reader -/

/-- **Lossy decoding is what the rules for it say,** from any state. -/
theorem lossy_lossyFrom {bytes : List UInt8} {state : Option Open} (hbs : Reading bs state) :
    Lossy (bs ++ bytes) (lossyFrom state bytes) := by
  induction bytes generalizing state bs with
  | nil =>
    cases hbs with
    | start => exact .nil
    | within hbs => exact .fault hbs.isFault .nil
  | cons b bytes ih =>
    -- a byte that is wrong in a character is read again after it
    have hstart : Lossy (b :: bytes) (lossyFrom none (b :: bytes)) := by
      rw [lossyFrom]
      split
      · next c hb =>
        have hc := Lossy.char c (ih .start)
        rwa [utf8EncodeChar_of_whole hb] at hc
      · next o hb => exact ih (.within (.first hb))
      · next hb => exact .fault (isFault_of_wrong hb) (ih .start)
    cases hbs with
    | start => exact hstart
    | within hbs =>
      rw [lossyFrom]
      split
      · next c hb =>
        have hc := Lossy.char c (ih .start)
        rwa [hbs.utf8EncodeChar_of_done hb, List.append_assoc] at hc
      · next p hb =>
        have hp := ih (.within (.next hbs hb))
        rwa [List.append_assoc] at hp
      · next hb => exact .fault (hbs.isFault_of_wrong hb) hstart

/-- There is one way to read bytes so. -/
theorem Lossy.unique {bytes : List UInt8} {cs es : List Char} (h : Lossy bytes cs)
    (h' : Lossy bytes es) : cs = es := by
  induction h generalizing es with
  | nil =>
    generalize hnil : ([] : List UInt8) = bytes at h'
    cases h' with
    | nil => rfl
    | char c _ => exact absurd (List.append_eq_nil_iff.1 hnil.symm).1 String.utf8EncodeChar_ne_nil
    | fault hbad _ => exact absurd (List.append_eq_nil_iff.1 hnil.symm).1 hbad.nonempty
  | @char c rest cs _ ih =>
    generalize hbytes : String.utf8EncodeChar c ++ rest = bytes at h'
    cases h' with
    | nil => exact absurd (List.append_eq_nil_iff.1 hbytes).1 String.utf8EncodeChar_ne_nil
    | char d h' =>
      obtain rfl := eq_of_prefixes (List.prefix_append _ rest)
        (hbytes ▸ List.prefix_append (String.utf8EncodeChar d) _)
      rw [ih ((List.append_cancel_left hbytes) ▸ h')]
    | fault hbad _ => exact absurd (hbytes ▸ List.prefix_append _ rest) (hbad.malformed c)
  | @fault bad rest cs hbad _ ih =>
    generalize hbytes : bad ++ rest = bytes at h'
    cases h' with
    | nil => exact absurd (List.append_eq_nil_iff.1 hbytes).1 hbad.nonempty
    | char d _ => exact absurd (hbytes ▸ List.prefix_append _ _) (hbad.malformed d)
    | fault hbad' h' =>
      obtain ⟨rfl, rfl⟩ := hbad.unique hbad' hbytes
      rw [ih h']

/-- **Bytes are read with a character for each faulty stretch,** and every other as it is. -/
theorem lossy_iff {bytes : List UInt8} {cs : List Char} :
    Lossy bytes cs ↔ decodeLossy bytes = cs := by
  have hread : Lossy bytes (decodeLossy bytes) := lossy_lossyFrom .start
  constructor
  · exact fun h => hread.unique h
  · rintro rfl
    exact hread

/-- Two bytes of three that are cut off, and one that is never right. -/
example : decodeLossy [0x66, 0xE2, 0x82, 0xFF] = ['f', replacement, replacement] := by decide

/-- A text that is well-formed loses nothing. -/
theorem lossy_encode (cs : List Char) : Lossy (encode cs) cs := by
  induction cs with
  | nil => exact .nil
  | cons c cs ih => exact .char c ih

/-- A text is read as it is. -/
theorem decodeLossy_encode (cs : List Char) : decodeLossy (encode cs) = cs :=
  lossy_iff.1 (lossy_encode cs)

end Utf8
end Text
end Remedy
