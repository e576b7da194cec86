import CoreProver.Decimal.Shortest

/-!
# How a double is written

The digits come from `Decimal.Shortest`; a `Layout` decides which of two equally near decimals is
written, where the point goes and when an exponent is used.
-/

namespace CoreProver.Decimal

/-- The decisions of a format about doubles. -/
structure Layout where
  tie : Tie
  /-- Decimal exponents that are written without exponent, both ends included; `none` for all. -/
  positional : Option (Int × Int)
  /-- Write `3.0` rather than `3`. -/
  keepsPoint : Bool
  deriving Repr, DecidableEq

/-- Digits with the point after `point` of them, in positional notation. -/
def positionalChars (keepsPoint : Bool) (digits : List Char) (point : Int) : List Char :=
  if point ≤ 0 then '0' :: '.' :: (List.replicate (-point).toNat '0' ++ digits)
  else
    let n := point.toNat
    if digits.length ≤ n then
      digits ++ List.replicate (n - digits.length) '0' ++ (if keepsPoint then ['.', '0'] else [])
    else digits.take n ++ '.' :: digits.drop n

/-- Digits with the point after the first of them and a signed exponent. -/
def exponentChars (digits : List Char) (exponent : Int) : List Char :=
  let fraction := digits.drop 1
  let sign := if exponent < 0 then '-' else '+'
  digits.take 1 ++ (if fraction.isEmpty then [] else '.' :: fraction) ++
    'e' :: sign :: Nat.toDigits 10 exponent.natAbs

/-- A positive decimal in a layout. -/
def Scaled.chars (layout : Layout) (s : Scaled) : List Char :=
  let digits := Nat.toDigits 10 s.digits
  let point := s.exponent + digits.length
  let plain := positionalChars layout.keepsPoint digits point
  match layout.positional with
  | none => plain
  | some (low, high) =>
    if low ≤ point - 1 ∧ point - 1 ≤ high then plain else exponentChars digits (point - 1)

/-- A finite double in a layout; zero keeps its sign. -/
def Layout.chars (layout : Layout) (d : Float) : List Char :=
  let bits := d.toBits
  let sign := if bits.toNat < Nat.pow 2 63 then [] else ['-']
  let b := Binary.ofBits bits
  sign ++
    (if b.mantissa = 0 then '0' :: (if layout.keepsPoint then ['.', '0'] else [])
    else (b.shortest layout.tie).chars layout)

end CoreProver.Decimal
