import CoreProver.Decimal.Basic

/-!
# The shortest decimal of a double

A positive finite double is `m · 2 ^ q`. Of all decimals that round to it, the shortest is wanted,
among those the nearest, and of two that are equally near the one that a `Tie` chooses. The reals
that round to the double form an interval around it, with its ends included exactly when `m` is
even. For one digit, two digits and so on up to seventeen, the two neighbours of the double on the
grid of decimals with that many digits are tried against the interval; the first grid with a hit
gives the answer. All arithmetic is on natural numbers.
-/

namespace CoreProver.Decimal

/-- Which of two equally near decimals is taken. -/
inductive Tie where
  /-- The larger one. -/
  | up
  /-- The one whose last digit is even. -/
  | toEven
  deriving Repr, DecidableEq

/-- Whether the lower of two equally near decimals is taken; `below` is its digits. -/
def Tie.takesBelow : Tie → (below : Nat) → Bool
  | up, _ => false
  | toEven, below => below % 2 = 0

/-- The positive number `mantissa · 2 ^ exponent`, as it is stored: `isPowerStart` says that the
next smaller double is only half as far away as the next larger one. -/
structure Binary where
  mantissa : Nat
  exponent : Int
  isPowerStart : Bool
  deriving Repr, DecidableEq

/-- Decode the bits of a finite double, without its sign. -/
def Binary.ofBits (bits : UInt64) : Binary :=
  let fraction : Nat := bits.toNat % Nat.pow 2 52
  let power : Nat := bits.toNat / Nat.pow 2 52 % Nat.pow 2 11
  if power = 0 then ⟨fraction, -1074, false⟩
  else ⟨fraction + Nat.pow 2 52, (power : Int) - 1075, fraction = 0 && power > 1⟩

def powTwo (e : Int) : Nat × Nat := (Nat.pow 2 e.toNat, Nat.pow 2 (-e).toNat)

def powTen (e : Int) : Nat × Nat := (Nat.pow 10 e.toNat, Nat.pow 10 (-e).toNat)

/-- The exponent `e` with `10 ^ e ≤ b < 10 ^ (e + 1)`, for a positive `b`. -/
def Binary.magnitude (b : Binary) : Int :=
  let (factor, divisor) := powTwo b.exponent
  let shifted := b.mantissa * factor * Nat.pow 10 400 / divisor
  ((Nat.toDigits 10 shifted).length : Int) - 401

/-- The best decimal with `count` digits that rounds to `b`, if there is one. -/
def Binary.onGrid? (b : Binary) (tie : Tie) (count : Nat) : Option Scaled :=
  let exponent := b.magnitude - (count : Int) + 1
  -- In quarters of the last binary place: the double and the ends of its interval.
  let (up, down) := powTwo (b.exponent - 2)
  let (tensUp, tensDown) := powTen exponent
  let left := up * tensDown
  let right := down * tensUp
  let value := 4 * b.mantissa * left
  let low := (4 * b.mantissa - (if b.isPowerStart then 1 else 2)) * left
  let high := (4 * b.mantissa + 2) * left
  let hits (d : Nat) : Bool :=
    let x := d * right
    if b.mantissa % 2 = 0 then low ≤ x && x ≤ high else low < x && x < high
  let below := value / right
  let above := below + 1
  let gapBelow := value - below * right
  let gapAbove := above * right - value
  let belowFirst := gapBelow < gapAbove || (gapBelow = gapAbove && tie.takesBelow below)
  let ordered := if belowFirst then [below, above] else [above, below]
  (ordered.find? hits).map (⟨·, exponent⟩)

/-- Remove trailing zeros, at most `fuel` of them. -/
def Scaled.normalizeFuel : Nat → Scaled → Scaled
  | 0, s => s
  | fuel + 1, s =>
    if s.digits ≠ 0 ∧ s.digits % 10 = 0 then normalizeFuel fuel ⟨s.digits / 10, s.exponent + 1⟩
    else s

def Scaled.normalize (s : Scaled) : Scaled := s.normalizeFuel (Nat.toDigits 10 s.digits).length

/-- The shortest decimal that rounds to a positive double. -/
def Binary.shortest (b : Binary) (tie : Tie) : Scaled :=
  (((List.range 17).findSome? fun i => b.onGrid? tie (i + 1)).getD ⟨0, 0⟩).normalize

end CoreProver.Decimal
