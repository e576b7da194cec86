import CoreProver.Text.Combining
import CoreProver.Text.Numeral
import CoreProver.Text.Unprintable

/-!
# Quoted characters and texts

A literal is shown between quotes, with escapes for the quote itself, the backslash, the common
controls, and by number for every character that could not be seen by itself: one without a visible
form, or one that would merge with the character before it.
-/

namespace CoreProver.Text

/-- Whether one of the ranges contains `n`. -/
def inRanges (ranges : List (Nat × Nat)) (n : Nat) : Bool :=
  ranges.any fun (low, high) => low ≤ n && n ≤ high

/-- Characters that are shown by their number. -/
def isShownByNumber (c : Char) : Bool :=
  let n := c.toNat
  if 0x20 ≤ n && n < 0x7F then false
  else inRanges combiningRanges n || inRanges unprintableRanges n

/-- One character inside quotes of the given form. -/
def quotedChar (quote c : Char) : List Char :=
  if c = Char.ofNat 0 then ['\\', '0']
  else if c = '\t' then ['\\', 't']
  else if c = '\r' then ['\\', 'r']
  else if c = '\n' then ['\\', 'n']
  else if c = '\\' ∨ c = quote then ['\\', c]
  else if isShownByNumber c then ['\\', 'u', '\x7b'] ++ Nat.toDigits 16 c.toNat ++ ['\x7d']
  else [c]

/-- Characters between two quotes of the given form. -/
def quotedWith (quote : Char) (s : List Char) : List Char :=
  quote :: s.flatMap (quotedChar quote) ++ [quote]

end CoreProver.Text
