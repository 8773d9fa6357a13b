/-
# A code of old machines

The codes that characters have on old machines, and a variant for printers.
-/

import Remedy.Host.Program.Basic

namespace Remedy
namespace Host
namespace Program
namespace Copy

/-- The codes of all characters, two hexadecimal digits each. -/
def ebcdicDigits : String :=
  "00010203372d2e2f1605250b0c0d0e0f101112133c3d322618193f271c1d1e1f405a7f7b5b6c507d4d5d" ++
  "5c4e6b604b61f0f1f2f3f4f5f6f7f8f97a5e4c7e6e6f7cc1c2c3c4c5c6c7c8c9d1d2d3d4d5d6d7d8d9e2" ++
  "e3e4e5e6e7e8e9ade0bd9a6d79818283848586878889919293949596979899a2a3a4a5a6a7a8a9c04fd0" ++
  "5f07202122232415061728292a2b2c090a1b30311a333435360838393a3b04143ee14142434445464748" ++
  "495152535455565758596263646566676869707172737475767778808a8b8c8d8e8f906a9b9c9d9e9fa0" ++
  "aaabac4aaeafb0b1b2b3b4b5b6b7b8b9babbbca1bebfcacbcccdcecfdadbdcdddedfeaebecedeeeffafb" ++
  "fcfdfeff"

/-- The bytes that pairs of hexadecimal digits denote. -/
def bytesOf : Octets → Octets
  | a :: b :: rest => Char.ofNat (valueIn 16 [a, b]) :: bytesOf rest
  | _ => []

/-- The codes of all characters. -/
def ebcdic : Array Char := (bytesOf ebcdicDigits.toList).toArray

/-- The code of a character. -/
def toEbcdic (c : Char) : Char := ebcdic.getD c.toNat c

/-- The code of a character for printers. -/
def toIbm (c : Char) : Char :=
  (([('\x5e', '\x5f'), ('\x7e', '\u00a1'), ('\u00cb', '\u009a'), ('\u00d5', '\u00ad'),
    ('\u00e5', '\u00bd')] : List (Char × Char)).lookup c).getD (toEbcdic c)

/-- The character that has a code. -/
def ofEbcdic (c : Char) : Char := Char.ofNat ((ebcdic.toList.idxOf? c).getD c.toNat)

end Copy
end Program
end Host
end Remedy
