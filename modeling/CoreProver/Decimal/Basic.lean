/-!
# Decimals

A natural number times a power of ten, and the point from which on such a number is beyond the
finite doubles.
-/

namespace CoreProver.Decimal

/-- The number `digits · 10 ^ exponent`. -/
structure Scaled where
  digits : Nat
  exponent : Int
  deriving Repr, DecidableEq

/-- The least number whose nearest double is infinite: half a place above the greatest finite one,
which is odd. -/
def leastInfinite : Nat := Nat.pow 2 1024 - Nat.pow 2 970

/-- Whether the nearest double is infinite. The number is written out only when it has as many
digits before the point as `leastInfinite`. -/
def Scaled.isBeyondDoubles (s : Scaled) : Bool :=
  let magnitude := s.exponent + (Nat.toDigits 10 s.digits).length
  if s.digits = 0 || magnitude < 309 then false
  else if magnitude > 309 then true
  else leastInfinite * Nat.pow 10 (-s.exponent).toNat ≤ s.digits * Nat.pow 10 s.exponent.toNat

end CoreProver.Decimal
