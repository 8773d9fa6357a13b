/-
# UTF-8

`encode` writes a text as bytes.  `decode` reads bytes back and, when they are
not well-formed, says where: the index of the first byte that belongs to no
character, and how many bytes from there on are wrong.  `decodeLossy` never
fails; it puts a replacement character for every faulty stretch.

Both readers take one byte at a time.  Between bytes they are either between
characters or inside one (`Open`), and an open character knows the bounds of
the byte it needs next, which is where overlong forms, surrogates and values
past the last code point are refused.
-/

namespace Remedy
namespace Text
namespace Utf8

/-- The bytes of a text. -/
def encode (cs : List Char) : List UInt8 := cs.flatMap String.utf8EncodeChar

@[simp] theorem encode_nil : encode [] = [] := rfl

@[simp] theorem encode_cons (c : Char) (cs : List Char) :
    encode (c :: cs) = String.utf8EncodeChar c ++ encode cs := rfl

@[simp] theorem encode_append (cs ds : List Char) : encode (cs ++ ds) = encode cs ++ encode ds := by
  simp [encode]

/-- A character of which some bytes have been read: the bits so far, how many
bytes they came in, how many are owed, and the bounds of the next byte. -/
structure Open where
  bits : Nat
  seen : Nat
  owed : Nat
  least : Nat
  most : Nat

/-- What a byte between two characters is. -/
inductive Lead where
  | whole (c : Char)
  | opens (o : Open)
  | wrong

/-- The first byte of a character. -/
def lead (b : UInt8) : Lead :=
  let n := b.toNat
  if n < 0x80 then .whole (Char.ofNat n)
  else if n < 0xC2 then .wrong
  else if n < 0xE0 then .opens ⟨n - 0xC0, 1, 1, 0x80, 0xBF⟩
  else if n < 0xF0 then
    .opens ⟨n - 0xE0, 1, 2, if n = 0xE0 then 0xA0 else 0x80, if n = 0xED then 0x9F else 0xBF⟩
  else if n < 0xF5 then
    .opens ⟨n - 0xF0, 1, 3, if n = 0xF0 then 0x90 else 0x80, if n = 0xF4 then 0x8F else 0xBF⟩
  else .wrong

/-- What a byte inside a character leads to. -/
inductive Next where
  | done (c : Char)
  | more (o : Open)
  | wrong

/-- A further byte of an open character. -/
def Open.next (o : Open) (b : UInt8) : Next :=
  let n := b.toNat
  if n < o.least || o.most < n then .wrong
  else
    let bits := 64 * o.bits + (n - 0x80)
    if o.owed ≤ 1 then .done (Char.ofNat bits)
    else .more ⟨bits, o.seen + 1, o.owed - 1, 0x80, 0xBF⟩

/-- Where bytes stop being UTF-8: all before `index` is well-formed.  `wrong`
counts the bytes from there on that cannot be part of any text; none when the
bytes end inside a character. -/
structure Fault where
  index : Nat
  wrong : Option Nat
  deriving DecidableEq, Repr

/-- How a fault is described. -/
def Fault.message (f : Fault) : String :=
  match f.wrong with
  | some k =>
    "invalid utf-8 sequence of " ++ toString k ++ " bytes from index " ++ toString f.index
  | none => "incomplete utf-8 byte sequence from index " ++ toString f.index

/-- Reads on, with the index at which the current or next character starts. -/
def decodeFrom : Nat → Option Open → List UInt8 → Except Fault (List Char)
  | _, none, [] => .ok []
  | index, some _, [] => .error ⟨index, none⟩
  | index, none, b :: rest =>
    match lead b with
    | .whole c => (decodeFrom (index + 1) none rest).map (c :: ·)
    | .opens o => decodeFrom index (some o) rest
    | .wrong => .error ⟨index, some 1⟩
  | index, some o, b :: rest =>
    match o.next b with
    | .done c => (decodeFrom (index + o.seen + 1) none rest).map (c :: ·)
    | .more p => decodeFrom index (some p) rest
    | .wrong => .error ⟨index, some o.seen⟩

/-- The text that bytes encode. -/
def decode (bytes : List UInt8) : Except Fault (List Char) := decodeFrom 0 none bytes

/-- The text that bytes encode, if any. -/
def decode? (bytes : List UInt8) : Option (List Char) := (decode bytes).toOption

/-- Stands for a faulty stretch of bytes. -/
def replacement : Char := Char.ofNat 0xFFFD

/-- Reads on, past any fault. -/
def lossyFrom : Option Open → List UInt8 → List Char
  | none, [] => []
  | some _, [] => [replacement]
  | none, b :: rest =>
    match lead b with
    | .whole c => c :: lossyFrom none rest
    | .opens o => lossyFrom (some o) rest
    | .wrong => replacement :: lossyFrom none rest
  | some o, b :: rest =>
    match o.next b with
    | .done c => c :: lossyFrom none rest
    | .more p => lossyFrom (some p) rest
    | .wrong =>
      replacement ::
        match lead b with
        | .whole c => c :: lossyFrom none rest
        | .opens p => lossyFrom (some p) rest
        | .wrong => replacement :: lossyFrom none rest

/-- The text that bytes encode, a replacement character for each faulty
stretch. -/
def decodeLossy (bytes : List UInt8) : List Char := lossyFrom none bytes

end Utf8
end Text
end Remedy
