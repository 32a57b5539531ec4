import TokenAtlas.Binary64

/-!
# Decimal numbers

A `Decimal` is a natural number scaled by a power of ten.  `Decimal.round` goes from decimals to
`Binary64`, with one rounding of the exact value; `Decimal.shortest` goes back, to the decimal with
the fewest digits among those that round to the number.

Both work in natural numbers.  `round` first compares the size of the decimal with the range of
`Binary64`, so an exponent of any size costs nothing.
-/

namespace TokenAtlas

/-- The number `digits * 10 ^ exponent`. -/
structure Decimal where
  digits : Nat
  exponent : Int
  deriving DecidableEq, Repr

/-- Which of two equally near decimals is taken. -/
inductive TieRule
  /-- The greater one. -/
  | up
  /-- The one whose last digit is even. -/
  | toEven
  deriving DecidableEq

namespace Decimal

/-- The number of decimal digits of a natural number; zero has one. -/
def length (n : Nat) : Nat := (Nat.toDigits 10 n).length

/-- The power of ten of the first digit. -/
def leadExponent (d : Decimal) : Int := d.exponent + length d.digits - 1

/-- The nearest `Binary64` with the given sign.  What is at least `10 ^ 400` is beyond the greatest
    finite number, and what is below `10 ^ (-400)` is nearest to zero. -/
def round (negative : Bool) (d : Decimal) : Binary64 :=
  if d.digits = 0 then .ofMagnitude negative 0
  else if 400 < d.leadExponent then .ofMagnitude negative Binary64.infinityMagnitude
  else if d.leadExponent < -400 then .ofMagnitude negative 0
  else .ofRatio negative (d.digits * Nat.pow 10 d.exponent.toNat) (Nat.pow 10 (-d.exponent).toNat)

/-- Moves zeros at the end of the digits into the exponent; `fuel` bounds the number of digits. -/
def trim : Nat → Decimal → Decimal
  | 0, d => d
  | fuel + 1, d =>
    if d.digits ≠ 0 ∧ d.digits % 10 = 0 then trim fuel ⟨d.digits / 10, d.exponent + 1⟩ else d

/-- The power of ten of the first digit of a positive quotient. -/
def quotientLeadExponent (num den : Nat) : Int :=
  let guess : Int := (length num : Int) - length den
  if den * Nat.pow 10 guess.toNat ≤ num * Nat.pow 10 (-guess).toNat then guess else guess - 1

/-- The values that round to a finite number, as a range of multiples of a power of two. -/
structure Neighbourhood where
  low : Nat
  high : Nat
  scale : Int
  /-- Whether the ends belong to the range. -/
  closed : Bool

/-- The values that round to a finite number.  The range reaches half way to both neighbours; the
    lower neighbour of a power of two is only half as far away. -/
def Neighbourhood.of (x : Binary64) : Neighbourhood :=
  let m := x.significand
  let lower := if m = Nat.pow 2 52 ∧ -1074 < x.exponent then 1 else 2
  { low := 4 * m - lower, high := 4 * m + 2, scale := x.exponent - 2, closed := m % 2 = 0 }

/-- Whether a decimal lies in the range. -/
def Neighbourhood.contains (r : Neighbourhood) (d : Decimal) : Bool :=
  let value := d.digits * Nat.pow 10 d.exponent.toNat * Nat.pow 2 (-r.scale).toNat
  let unit := Nat.pow 10 (-d.exponent).toNat * Nat.pow 2 r.scale.toNat
  if r.closed then r.low * unit ≤ value && value ≤ r.high * unit
  else r.low * unit < value && value < r.high * unit

/-- The decimal with the given exponent that is nearest to a positive quotient among its two
    neighbours that lie in the range. -/
def nearest? (tie : TieRule) (r : Neighbourhood) (num den : Nat) (exponent : Int) :
    Option Decimal :=
  -- The quotient in units of the last digit is `a / b`.
  let a := num * Nat.pow 10 (-exponent).toNat
  let b := den * Nat.pow 10 exponent.toNat
  let below : Decimal := ⟨a / b, exponent⟩
  let above : Decimal := ⟨a / b + 1, exponent⟩
  match r.contains below, r.contains above with
  | true, true =>
    -- Both round to the number, so the nearer one is taken.
    let rest := 2 * (a % b)
    if rest < b then some below
    else if b < rest then some above
    else match tie with
      | .up => some above
      | .toEven => some (if a / b % 2 = 0 then below else above)
  | true, false => some below
  | false, true => some above
  | false, false => none

/-- The shortest decimal of at most `count + 1` digits, tried from one digit on. -/
def shortestFrom (tie : TieRule) (r : Neighbourhood) (num den : Nat) (lead : Int) :
    Nat → Nat → Decimal
  | digits, 0 => (nearest? tie r num den (lead - digits)).getD ⟨num, 0⟩
  | digits, count + 1 =>
    match nearest? tie r num den (lead - digits) with
    | some d => d
    | none => shortestFrom tie r num den lead (digits + 1) count

/-- The decimal with the fewest digits among those that round to the absolute value of a finite
    number, and of those the nearest one. Seventeen digits always suffice. -/
def shortest (tie : TieRule) (x : Binary64) : Decimal :=
  if x.isZero then ⟨0, 0⟩
  else
    let num := x.numerator
    let den := x.denominator
    trim 20 (shortestFrom tie (.of x) num den (quotientLeadExponent num den) 0 17)

/-- The digits, from the first to the last. -/
def digitChars (d : Decimal) : List Char := Nat.toDigits 10 d.digits

/-- The number without an exponent: zeros fill the places between the digits and the point. -/
def positional (d : Decimal) : List Char :=
  let ds := d.digitChars
  if 0 ≤ d.exponent then ds ++ List.replicate d.exponent.toNat '0'
  else
    let places := (-d.exponent).toNat
    if places < ds.length then ds.take (ds.length - places) ++ '.' :: ds.drop (ds.length - places)
    else '0' :: '.' :: (List.replicate (places - ds.length) '0' ++ ds)

/-- One digit before the point and the exponent with its sign after an `e`. -/
def scientific (d : Decimal) : List Char :=
  let exponent := d.leadExponent
  let mantissa := match d.digitChars with
    | [] => []
    | [c] => [c]
    | c :: cs => c :: '.' :: cs
  mantissa ++ 'e' :: (if exponent < 0 then '-' else '+') :: Nat.toDigits 10 exponent.natAbs

end Decimal

end TokenAtlas
