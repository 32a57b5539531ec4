import TokenAtlas.Decimal.Basic
import TokenAtlas.Json.Basic

/-!
# Numbers in JSON texts

A `Numeral` is a number as it is written: sign, digits, decimal places, exponent.  `Numeral.value?`
says what it stands for.

A numeral without decimal places and exponent is a whole number when it fits into 64 bits, unsigned
when it has no minus sign and signed when it has one.  Minus zero is a floating-point number.

Every other numeral is a floating-point number.  Its leading digits are taken as a whole number as
long as that fits into 64 bits, and the power of ten that is left is applied by multiplying or
dividing once by a rounded power of ten.  So the last digit may differ from that of the nearest
number.  A numeral that is too great for a finite number stands for nothing.
-/

namespace TokenAtlas.Json

/-- A number as it is written. -/
structure Numeral where
  /-- Whether a minus sign stands in front. -/
  negative : Bool
  /-- The digits before the point. -/
  whole : List Nat
  /-- The digits after the point, if there is one. -/
  places : Option (List Nat)
  /-- Whether the exponent has a minus sign, and its digits, if there is one. -/
  exponent : Option (Bool × List Nat)
  deriving DecidableEq

/-- The value of a decimal digit. -/
def digit? (c : Char) : Option Nat :=
  if '0' ≤ c ∧ c ≤ '9' then some (c.toNat - '0'.toNat) else none

/-- The digits that a text begins with, and what follows them. -/
def takeDigits : List Char → List Nat × List Char
  | [] => ([], [])
  | c :: rest =>
    match digit? c with
    | some d => let (ds, after) := takeDigits rest; (d :: ds, after)
    | none => ([], c :: rest)

/-- The number that digits stand for. -/
def ofDigits (ds : List Nat) : Nat := ds.foldl (fun n d => n * 10 + d) 0

namespace Numeral

/-- Reads the digits before the point: a single zero, or digits that begin with no zero. -/
def readWhole? (s : List Char) : Option (List Nat × List Char) :=
  match takeDigits s with
  | ([], _) => none
  | (0 :: _ :: _, _) => none
  | (ds, rest) => some (ds, rest)

/-- Reads a point and the digits after it, if there is a point. -/
def readPlaces? : List Char → Option (Option (List Nat) × List Char)
  | '.' :: rest =>
    match takeDigits rest with
    | ([], _) => none
    | (ds, rest) => some (some ds, rest)
  | s => some (none, s)

/-- Reads the sign of an exponent: whether it is a minus sign. -/
def readSign : List Char → Bool × List Char
  | '-' :: rest => (true, rest)
  | '+' :: rest => (false, rest)
  | s => (false, s)

/-- Reads an exponent, if there is one. -/
def readExponent? : List Char → Option (Option (Bool × List Nat) × List Char)
  | c :: rest =>
    if c = 'e' ∨ c = 'E' then
      let (negative, rest) := readSign rest
      match takeDigits rest with
      | ([], _) => none
      | (ds, rest) => some (some (negative, ds), rest)
    else some (none, c :: rest)
  | [] => some (none, [])

/-- Reads what follows the sign. -/
def readUnsigned? (negative : Bool) (s : List Char) : Option (Numeral × List Char) := do
  let (whole, s) ← readWhole? s
  let (places, s) ← readPlaces? s
  let (exponent, s) ← readExponent? s
  some ({ negative, whole, places, exponent }, s)

/-- Reads a numeral at the start of a text. -/
def read? : List Char → Option (Numeral × List Char)
  | '-' :: rest => readUnsigned? true rest
  | s => readUnsigned? false s

/-- Appends digits to a whole number as long as it fits into 64 bits, and gives the digits that are
    left. -/
def accumulate (n : Nat) : List Nat → Nat × List Nat
  | [] => (n, [])
  | d :: ds => if n * 10 + d < Nat.pow 2 64 then accumulate (n * 10 + d) ds else (n, d :: ds)

/-- Divides by a power of ten beyond the greatest one that is a finite number, in steps. -/
def scaleDown (x : Binary64) (power : Nat) : Binary64 :=
  if power ≤ 308 then x.div (.ofNat (Nat.pow 10 power))
  else if x.isZero then x
  else scaleDown (x.div (.ofNat (Nat.pow 10 308))) (power - 308)
termination_by power

/-- A whole number times a power of ten, unless it is too great. -/
def scale? (n : Nat) (power : Int) : Option Binary64 :=
  let x := Binary64.ofNat n
  if power < 0 then some (scaleDown x power.natAbs)
  else if power ≤ 308 then
    let y := x.mul (.ofNat (Nat.pow 10 power.natAbs))
    if y.isInfinite then none else some y
  else if x.isZero then some x
  else none

/-- The floating-point number that digits with an exponent stand for. -/
def float? (m : Numeral) : Option Binary64 :=
  -- Digits that do not fit any more count as powers of ten before the point, and not after it.
  let (n, dropped) := accumulate 0 m.whole
  let (n, used) := match m.places with
    | none => (n, 0)
    | some ds => let (n, left) := accumulate n ds; (n, ds.length - left.length)
  let power : Int := (dropped.length : Int) - used
  match m.exponent with
  | none => scale? n power
  | some (negative, ds) =>
    let e := ofDigits ds
    -- An exponent beyond 32 bits leaves only zero or nothing.
    if e < Nat.pow 2 31 then scale? n (if negative then power - e else power + e)
    else if n = 0 || negative then some .zero
    else none

/-- Whether the numeral is written as a whole number. -/
def isWhole (m : Numeral) : Bool := m.places.isNone && m.exponent.isNone

/-- What a numeral stands for. -/
def value? (m : Numeral) : Option Number :=
  let (n, dropped) := accumulate 0 m.whole
  if m.isWhole && dropped.isEmpty && !m.negative then some (.int n)
  else if m.isWhole && dropped.isEmpty && 0 < n && n ≤ Nat.pow 2 63 then some (.int (-n))
  else m.float?.map fun x => .float (if m.negative then x.negate else x)

end Numeral

/-- Reads a number at the start of a text. -/
def readNumber? (s : List Char) : Option (Number × List Char) := do
  let (m, rest) ← Numeral.read? s
  let n ← m.value?
  some (n, rest)

end TokenAtlas.Json
