/-!
# Reading bytes as text

Bytes that are no UTF-8 do not stop the reading: every longest run of bytes that starts a code
point but does not complete it is shown as one replacement character, and so is every byte that
cannot start one.
-/

namespace CoreProver.Text

/-- Stands for bytes that are no text. -/
def replacement : Char := Char.ofNat 0xFFFD

/-- How many bytes follow the first byte of a code point, and the range of the first of them. `none`
for a byte that starts no code point. -/
def leadByte? (b : UInt8) : Option (Nat × Nat × Nat) :=
  let n := b.toNat
  if n < 0x80 then some (0, 0, 0)
  else if 0xC2 ≤ n ∧ n ≤ 0xDF then some (1, 0x80, 0xBF)
  else if n = 0xE0 then some (2, 0xA0, 0xBF)
  else if n = 0xED then some (2, 0x80, 0x9F)
  else if 0xE1 ≤ n ∧ n ≤ 0xEF then some (2, 0x80, 0xBF)
  else if n = 0xF0 then some (3, 0x90, 0xBF)
  else if 0xF1 ≤ n ∧ n ≤ 0xF3 then some (3, 0x80, 0xBF)
  else if n = 0xF4 then some (3, 0x80, 0x8F)
  else none

/-- The state between two bytes: outside of a code point, or inside one with the bits read so far,
the number of bytes missing and the range of the next byte. -/
inductive Utf8State where
  | start
  | inside (bits missing low high : Nat)
  deriving Repr, DecidableEq

/-- Begin a code point with `b`. -/
def Utf8State.begin (b : UInt8) : Utf8State × List Char :=
  match leadByte? b with
  | none => (.start, [replacement])
  | some (0, _, _) => (.start, [Char.ofNat b.toNat])
  | some (1, low, high) => (.inside (b.toNat % 0x20) 1 low high, [])
  | some (2, low, high) => (.inside (b.toNat % 0x10) 2 low high, [])
  | some (more, low, high) => (.inside (b.toNat % 0x08) more low high, [])

/-- Read one byte: the next state, and the characters that are now complete. -/
def Utf8State.step : Utf8State → UInt8 → Utf8State × List Char
  | .start, b => begin b
  | .inside bits missing low high, b =>
    if low ≤ b.toNat ∧ b.toNat ≤ high then
      let bits := bits * 0x40 + b.toNat % 0x40
      if missing ≤ 1 then (.start, [Char.ofNat bits])
      else (.inside bits (missing - 1) 0x80 0xBF, [])
    else
      let (next, shown) := begin b
      (next, replacement :: shown)

/-- Read the remaining bytes from a state. -/
def decodeFrom : Utf8State → List UInt8 → List Char
  | .start, [] => []
  | .inside .., [] => [replacement]
  | state, b :: rest =>
    let (next, shown) := state.step b
    shown ++ decodeFrom next rest

/-- Read bytes as text; what is no text is replaced. -/
def decodeLossy (bytes : List UInt8) : List Char := decodeFrom .start bytes

end CoreProver.Text
