import TokenAtlas.Decimal.Basic

/-!
# Written forms of floating-point numbers

A written form is a `Layout`: which of two equally near shortest decimals is taken, for which powers
of ten of the first digit no exponent is written, and what ends a whole number.  Two layouts are in
use: `Layout.plain` in listings of arguments and `Layout.json` in JSON texts.
-/

namespace TokenAtlas.Decimal

/-- The decisions of a written form of finite numbers. -/
structure Layout where
  /-- Which of two equally near shortest decimals is written. -/
  tie : TieRule
  /-- The powers of ten of the first digit for which no exponent is written. -/
  isPositional : Int → Bool
  /-- What follows the digits of a whole number that is written without an exponent. -/
  wholeEnd : List Char

/-- No exponent at all, and nothing after the digits of a whole number. -/
def Layout.plain : Layout where
  tie := .up
  isPositional _ := true
  wholeEnd := []

/-- An exponent below `10 ^ (-5)` and from `10 ^ 16` on, and one decimal place at least. -/
def Layout.json : Layout where
  tie := .toEven
  isPositional e := -5 ≤ e && e < 16
  wholeEnd := ['.', '0']

/-- The written form of a finite number; a set sign bit is a minus sign, also on zero. -/
def Layout.render (l : Layout) (x : Binary64) : List Char :=
  let d := shortest l.tie x
  let body :=
    if l.isPositional d.leadExponent then
      d.positional ++ (if 0 ≤ d.exponent then l.wholeEnd else [])
    else d.scientific
  if x.isNegative then '-' :: body else body

end TokenAtlas.Decimal
