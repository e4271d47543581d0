import LinkTemplate.Text
/-!
# Numbers

A number of a document that is no integer of 64 bits is read into the nearest binary
floating-point number of 64 bits.  Values of this format are kept as a mantissa and an
exponent and all arithmetic is exact on naturals, followed by one rounding, so nothing
here depends on machine floats.  `Magnitude.ofRatio?` is that rounding: to the nearest
value, the even mantissa on a tie, none on overflow.

A value is written with the fewest significant digits that still identify it:
of the decimals that round to the value, one with the fewest digits, and of
those the nearest, the larger one on a tie.  Digits are always placed
positionally; there is no exponent, and no point without digits after it.
-/

namespace LinkTemplate

/-! ### Binary numbers of 64 bits -/

/-- The natural number nearest to `n / d`, the even one on a tie. -/
def roundHalfEven (n d : Nat) : Nat :=
  let q := n / d
  let r := n % d
  if 2 * r < d then q
  else if d < 2 * r then q + 1
  else if q % 2 = 0 then q else q + 1

/-- The finite value `mantissa * 2 ^ exponent`. -/
structure Magnitude where
  mantissa : Nat
  exponent : Int
deriving DecidableEq, Repr

namespace Magnitude

/-- The exponent of the finest grid. -/
def minExponent : Int := -1074

/-- The exponent of the coarsest grid. -/
def maxExponent : Int := 971

/-- Mantissas have at most this many bits. -/
def precision : Nat := 53

/-- The value zero. -/
def zero : Magnitude := ⟨0, minExponent⟩

/-- The fraction `n / d` scaled by `2 ^ (-e)`, as numerator and denominator. -/
def scale (n d : Nat) (e : Int) : Nat × Nat :=
  match e with
  | .ofNat k => (n, d * Nat.pow 2 k)
  | .negSucc k => (n * Nat.pow 2 (k + 1), d)

/-- The exponent of the grid on which `n / d` has exactly `precision` bits. -/
def normalExponent (n d : Nat) : Int :=
  let e : Int := (Nat.log2 n : Int) - Nat.log2 d - (precision - 1)
  let (n', d') := scale n d e
  if n' / d' < Nat.pow 2 (precision - 1) then e - 1 else e

/-- The value nearest to `n / d`, the one with the even mantissa on a tie; none if the fraction is
too large for the format. -/
def ofRatio? (n d : Nat) : Option Magnitude :=
  if n = 0 then some zero
  else
    let e := max (normalExponent n d) minExponent
    let (n', d') := scale n d e
    let m := roundHalfEven n' d'
    let (m, e) := if m = Nat.pow 2 precision then (Nat.pow 2 (precision - 1), e + 1) else (m, e)
    if maxExponent < e then none else some ⟨m, e⟩

/-- The value as a fraction. -/
def toRatio (x : Magnitude) : Nat × Nat := scale x.mantissa 1 (-x.exponent)

/-- The rounded product of two values. -/
def mul? (x y : Magnitude) : Option Magnitude :=
  let (n, d) := x.toRatio
  let (n', d') := y.toRatio
  ofRatio? (n * n') (d * d')

/-- The rounded quotient of two values. -/
def div? (x y : Magnitude) : Option Magnitude :=
  let (n, d) := x.toRatio
  let (n', d') := y.toRatio
  ofRatio? (n * d') (d * n')

/-- The value nearest to a power of ten. -/
def powerOfTen? (k : Nat) : Option Magnitude := ofRatio? (Nat.pow 10 k) 1

/-- The value nearest to `digits * 10 ^ exponent`.  Exponents far outside the range of the format
are decided without computing the power. -/
def ofDecimal? (digits : Nat) (exponent : Int) : Option Magnitude :=
  let places : Int := (Nat.toDigits 10 digits).length + exponent
  if digits = 0 ∨ places < -400 then some zero
  else if 400 < places then none
  else
    match exponent with
    | .ofNat k => ofRatio? (digits * Nat.pow 10 k) 1
    | .negSucc k => ofRatio? digits (Nat.pow 10 (k + 1))

end Magnitude

/-- A value of the format. -/
inductive Binary64 where
  | finite (negative : Bool) (magnitude : Magnitude)
  | infinite (negative : Bool)
  | nan
deriving DecidableEq, Repr

/-! ### Their shortest text -/

/-- The decimal `digits * 10 ^ exponent`. -/
structure Decimal where
  digits : Nat
  exponent : Int
deriving DecidableEq, Repr

namespace Decimal

/-- Moves trailing zeros of the digits into the exponent. -/
def stripZeros : Nat → Decimal → Decimal
  | 0, x => x
  | fuel + 1, x =>
    if x.digits ≠ 0 ∧ x.digits % 10 = 0 then stripZeros fuel ⟨x.digits / 10, x.exponent + 1⟩
    else x

/-- The decimal without trailing zeros among its digits. -/
def normalize (x : Decimal) : Decimal := stripZeros (Nat.toDigits 10 x.digits).length x

/-- The digits in their places. -/
def positional (x : Decimal) : Text :=
  let digits := Text.ofNat x.digits
  match x.exponent with
  | .ofNat zeros => digits ++ List.replicate zeros '0'
  | .negSucc k =>
    let places := k + 1
    let padded := List.replicate (places + 1 - digits.length) '0' ++ digits
    padded.take (padded.length - places) ++ '.' :: padded.drop (padded.length - places)

end Decimal

namespace Magnitude

/-- The bounds of the interval of numbers that round to a value, in units of a quarter of its grid.
Below a power of two the grid is twice as fine. -/
def bounds (x : Magnitude) : Nat × Nat :=
  let below :=
    if x.mantissa = Nat.pow 2 (precision - 1) ∧ minExponent < x.exponent then 1 else 2
  (4 * x.mantissa - below, 4 * x.mantissa + 2)

/-- The exponent of the leading decimal digit of `n / d`. -/
def leadingExponent (n d : Nat) : Int :=
  if d ≤ n then (Nat.toDigits 10 (n / d)).length - 1
  else -((Nat.toDigits 10 ((d - 1) / n)).length : Int)

/-- The decimal nearest to a value among the multiples of `10 ^ k` that round to it. -/
def candidate? (x : Magnitude) (k : Int) : Option Decimal :=
  let (low, high) := x.bounds
  -- In the unit `u`, a quarter of the grid, the value is `4 * mantissa`, `10 ^ k` is `num / den`.
  let (num, den) : Nat × Nat :=
    match x.exponent - 2, k with
    | .ofNat e, .ofNat k => (Nat.pow 10 k, Nat.pow 2 e)
    | .ofNat e, .negSucc k => (1, Nat.pow 2 e * Nat.pow 10 (k + 1))
    | .negSucc e, .ofNat k => (Nat.pow 10 k * Nat.pow 2 (e + 1), 1)
    | .negSucc e, .negSucc k => (Nat.pow 2 (e + 1), Nat.pow 10 (k + 1))
  let value := 4 * x.mantissa * den
  let floor := value / num
  let inside (m : Nat) : Bool :=
    if x.mantissa % 2 = 0 then low * den ≤ m * num && m * num ≤ high * den
    else low * den < m * num && m * num < high * den
  let distanceDown := value - floor * num
  let distanceUp := (floor + 1) * num - value
  match inside floor, inside (floor + 1) with
  | true, true => some ⟨if distanceDown < distanceUp then floor else floor + 1, k⟩
  | true, false => some ⟨floor, k⟩
  | false, true => some ⟨floor + 1, k⟩
  | false, false => none

/-- The shortest decimal that rounds to a value.  Seventeen digits always suffice. -/
def shortest (x : Magnitude) : Decimal :=
  if x.mantissa = 0 then ⟨0, 0⟩
  else
    let (n, d) := x.toRatio
    let lead := leadingExponent n d
    let found := (List.range 17).findSome? fun (extra : Nat) => x.candidate? (lead - extra)
    (found.getD ⟨0, 0⟩).normalize

end Magnitude

namespace Binary64

/-- The shortest text of a value. -/
def toText : Binary64 → Text
  | finite negative x => (if negative then ['-'] else []) ++ x.shortest.positional
  | infinite negative => (if negative then ['-'] else []) ++ "inf".toList
  | nan => "NaN".toList

end Binary64

/-! ### Numbers of a document -/

/-- A number of a document: a plain integer that fits 64 bits, signed or unsigned, or the binary
value that any other number is read into. -/
inductive Number where
  | integer (n : Int)
  | real (x : Binary64)
deriving DecidableEq, Repr

namespace Number

/-- The integer fits an unsigned word of so many bits. -/
def fitsUnsigned (bits : Nat) (n : Int) : Bool := 0 ≤ n && n.toNat < Nat.pow 2 bits

/-- The integer fits a signed word of so many bits. -/
def fitsSigned (bits : Nat) (n : Int) : Bool :=
  if 0 ≤ n then n.toNat < Nat.pow 2 (bits - 1) else n.natAbs ≤ Nat.pow 2 (bits - 1)

/-- The value of an integer as a binary number. -/
def realOfInt (n : Int) : Binary64 :=
  match Magnitude.ofRatio? n.natAbs 1 with
  | some m => .finite (n < 0) m
  | none => .infinite (n < 0)

/-- The text of a number: an integer that fits 64 signed bits in decimal, any other number as the
shortest text of its binary value. -/
def toText : Number → Text
  | integer n => if fitsSigned 64 n then Text.ofInt n else (realOfInt n).toText
  | real x => x.toText

end Number

end LinkTemplate
