import CoreProver.Decimal.Basic
import CoreProver.Text.Numeral
import CoreProver.Toml.Basic

/-!
# Numbers, truth values and dates

A word is everything up to the next blank, comma, bracket or comment. Digits may be grouped by
single underscores. Integers have 64 bits, and decimal ones no leading zeros.
-/

namespace CoreProver.Toml

def isWordChar (c : Char) : Bool :=
  c.isAlphanum || c = '_' || c = '+' || c = '-' || c = '.' || c = ':'

/-- Digits without the underscores between them. -/
def ungroup? (isDigit : Char → Bool) : List Char → Option (List Char)
  | [] => none
  | [c] => if isDigit c then some [c] else none
  | c :: '_' :: rest => if isDigit c then (ungroup? isDigit rest).map (c :: ·) else none
  | c :: rest => if isDigit c then (ungroup? isDigit rest).map (c :: ·) else none

/-- The digits of a decimal integer. -/
def decimalDigits? (s : List Char) : Option (List Char) :=
  match ungroup? Char.isDigit s with
  | some ('0' :: _ :: _) => none
  | digits => digits

/-- The number, if it is one of 64 bits with sign. -/
def word64? (n : Int) : Option Int :=
  if -Int.pow 2 63 ≤ n ∧ n < Int.pow 2 63 then some n else none

/-- Read digits in a base that is a power of two. -/
def basedNat? (base : Nat) (s : List Char) : Option Nat :=
  let isDigit (c : Char) : Bool := (Text.hexDigit? c).any (· < base)
  (ungroup? isDigit s).map fun digits =>
    digits.foldl (fun n c => base * n + (Text.hexDigit? c).getD 0) 0

def integer? : List Char → Option Int
  | '0' :: 'x' :: s => ((basedNat? 16 s).map Int.ofNat).bind word64?
  | '0' :: 'o' :: s => ((basedNat? 8 s).map Int.ofNat).bind word64?
  | '0' :: 'b' :: s => ((basedNat? 2 s).map Int.ofNat).bind word64?
  | '+' :: s => ((decimalDigits? s).map fun d => Int.ofNat (Text.ofDigits d)).bind word64?
  | '-' :: s => ((decimalDigits? s).map fun d => -Int.ofNat (Text.ofDigits d)).bind word64?
  | s => ((decimalDigits? s).map fun d => Int.ofNat (Text.ofDigits d)).bind word64?

/-- A text without a sign in front. -/
def dropSign : List Char → List Char
  | '+' :: s => s
  | '-' :: s => s
  | s => s

/-- The exponent behind the digits of a floating-point number; none counts as zero. -/
def exponent? : List Char → Option Int
  | [] => some 0
  | e :: s =>
    if e = 'e' || e = 'E' then
      (ungroup? Char.isDigit (dropSign s)).map fun digits =>
        let n := Text.ofDigits digits
        if s.head? = some '-' then -n else n
    else none

/-- The magnitude of a floating-point number without sign. It has a point or an exponent. -/
def magnitude? (s : List Char) : Option Decimal.Scaled :=
  let isGrouped (c : Char) : Bool := c.isDigit || c = '_'
  (decimalDigits? (s.takeWhile isGrouped)).bind fun whole =>
    match s.dropWhile isGrouped with
    | [] => none
    | '.' :: rest =>
      (ungroup? Char.isDigit (rest.takeWhile isGrouped)).bind fun fraction =>
        (exponent? (rest.dropWhile isGrouped)).map fun e =>
          ⟨Text.ofDigits (whole ++ fraction), e - fraction.length⟩
    | rest => (exponent? rest).map fun e => ⟨Text.ofDigits whole, e⟩

/-- Whether the text is a floating-point number. Infinity is written out: a positive number that is
too large is refused, though a negative one is not. -/
def isFloat (s : List Char) : Bool :=
  let unsigned := dropSign s
  unsigned = "inf".toList || unsigned = "nan".toList ||
    (magnitude? unsigned).any fun m => s.head? = some '-' || !m.isBeyondDoubles

/-- The number of two digits, if it is between the bounds. -/
def twoDigits? (low high : Nat) (a b : Char) : Option Nat :=
  if a.isDigit && b.isDigit then
    let n := Text.ofDigits [a, b]
    if low ≤ n && n ≤ high then some n else none
  else none

def daysOfMonth (year month : Nat) : Nat :=
  if month = 2 then
    if year % 4 = 0 && (year % 100 ≠ 0 || year % 400 = 0) then 29 else 28
  else if month = 4 || month = 6 || month = 9 || month = 11 then 30
  else 31

/-- What follows a day at the front. -/
def afterDay? : List Char → Option (List Char)
  | y1 :: y2 :: y3 :: y4 :: '-' :: m1 :: m2 :: '-' :: d1 :: d2 :: rest =>
    if [y1, y2, y3, y4].all Char.isDigit then
      (twoDigits? 1 12 m1 m2).bind fun month =>
        (twoDigits? 1 (daysOfMonth (Text.ofDigits [y1, y2, y3, y4]) month) d1 d2).map fun _ => rest
    else none
  | _ => none

/-- What follows a time of day at the front. -/
def afterTime? : List Char → Option (List Char)
  | h1 :: h2 :: ':' :: m1 :: m2 :: ':' :: s1 :: s2 :: rest =>
    if (twoDigits? 0 23 h1 h2).isSome && (twoDigits? 0 59 m1 m2).isSome &&
        (twoDigits? 0 60 s1 s2).isSome then
      match rest with
      | '.' :: fraction =>
        if (fraction.takeWhile Char.isDigit).isEmpty then none
        else some (fraction.dropWhile Char.isDigit)
      | rest => some rest
    else none
  | _ => none

/-- Whether the text is an offset from universal time, or nothing. -/
def isOffset : List Char → Bool
  | [] => true
  | ['Z'] => true
  | ['z'] => true
  | [sign, h1, h2, ':', m1, m2] =>
    (sign = '+' || sign = '-') && (twoDigits? 0 23 h1 h2).isSome && (twoDigits? 0 59 m1 m2).isSome
  | _ => false

/-- Whether the text is a date, a time of day, or both. -/
def isDate (s : List Char) : Bool :=
  match afterDay? s with
  | none => afterTime? s = some []
  | some [] => true
  | some (c :: rest) => (c = 'T' || c = 't' || c = ' ') && (afterTime? rest).any isOffset

/-- The value of a word. -/
def scalar? (word : List Char) : Option Value :=
  if word = "true".toList then some (.boolean true)
  else if word = "false".toList then some (.boolean false)
  else
    match integer? word with
    | some n => some (.integer n)
    | none =>
      if isFloat word then some (.float (String.ofList word))
      else if isDate word then some (.date (String.ofList word))
      else none

/-- Read a word and its value. A day and a time of day may have one space between them. -/
def readScalar? (s : List Char) : Option (Value × List Char) :=
  let word := s.takeWhile isWordChar
  let rest := s.dropWhile isWordChar
  match rest with
  | ' ' :: time =>
    if afterDay? word = some [] && (time.head?.any Char.isDigit) then
      (scalar? (word ++ ' ' :: time.takeWhile isWordChar)).map
        fun v => (v, time.dropWhile isWordChar)
    else (scalar? word).map fun v => (v, rest)
  | _ => (scalar? word).map fun v => (v, rest)

end CoreProver.Toml
