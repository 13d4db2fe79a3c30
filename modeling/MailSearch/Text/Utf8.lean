/-! UTF-8, read one byte at a time. The reader keeps the number of continuation bytes it still expects
and the range of the next one, so a malformed piece ends at the first byte that cannot continue it. -/

namespace MailSearch.Text.Utf8

/-- The bytes a character takes. -/
def encodeChar (c : Char) : List UInt8 :=
  let n := c.toNat
  let tail (shift : Nat) : UInt8 := UInt8.ofNat (0x80 + n / shift % 64)
  if n < 0x80 then [UInt8.ofNat n]
  else if n < 0x800 then [UInt8.ofNat (0xC0 + n / 64), tail 1]
  else if n < 0x10000 then [UInt8.ofNat (0xE0 + n / 4096), tail 64, tail 1]
  else [UInt8.ofNat (0xF0 + n / 262144), tail 4096, tail 64, tail 1]

def encode (chars : List Char) : List UInt8 := chars.flatMap encodeChar

/-- A character part way through: the continuation bytes still expected, the range the next one must
fall in, and the bits read so far. With nothing expected, the reader stands between characters. -/
structure Pending where
  expected : Nat
  low : Nat
  high : Nat
  bits : Nat
  deriving DecidableEq, Repr

def between : Pending := ⟨0, 0x80, 0xBF, 0⟩

/-- Reads the first byte of a character; `none` among the results marks a malformed piece. -/
def lead (byte : Nat) : List (Option Char) × Pending :=
  if byte < 0x80 then ([some (Char.ofNat byte)], between)
  else if 0xC2 ≤ byte ∧ byte ≤ 0xDF then ([], ⟨1, 0x80, 0xBF, byte - 0xC0⟩)
  else if 0xE0 ≤ byte ∧ byte ≤ 0xEF then
    ([], ⟨2, if byte = 0xE0 then 0xA0 else 0x80, if byte = 0xED then 0x9F else 0xBF, byte - 0xE0⟩)
  else if 0xF0 ≤ byte ∧ byte ≤ 0xF4 then
    ([], ⟨3, if byte = 0xF0 then 0x90 else 0x80, if byte = 0xF4 then 0x8F else 0xBF, byte - 0xF0⟩)
  else ([none], between)

/-- Reads one byte. A byte that cannot continue the pending character closes it as malformed and is
read again as a first byte. -/
def step (pending : Pending) (byte : Nat) : List (Option Char) × Pending :=
  match pending.expected with
  | 0 => lead byte
  | more + 1 =>
    if pending.low ≤ byte ∧ byte ≤ pending.high then
      let bits := pending.bits * 64 + (byte - 0x80)
      if more = 0 then ([some (Char.ofNat bits)], between) else ([], ⟨more, 0x80, 0xBF, bits⟩)
    else
      let (read, next) := lead byte
      (none :: read, next)

def scan (pending : Pending) : List UInt8 → List (Option Char)
  | [] => if pending.expected = 0 then [] else [none]
  | byte :: rest =>
    let (read, next) := step pending byte.toNat
    read ++ scan next rest

/-- The characters of the bytes, with one replacement character for each malformed piece. -/
def decodeReplacing (bytes : List UInt8) : List Char :=
  (scan between bytes).map (·.getD (Char.ofNat 0xFFFD))

/-- The characters of well-formed bytes. -/
def decode? (bytes : List UInt8) : Option (List Char) := (scan between bytes).mapM id

end MailSearch.Text.Utf8
