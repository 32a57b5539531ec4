import TokenAtlas.Decimal.Basic

/-!
# Reading decimals

`Decimal.read?` reads a decimal with an optional point and exponent.  There must be a digit before
or after the point.
-/

namespace TokenAtlas.Decimal

/-- The number that decimal digits stand for. -/
def ofDigitChars (cs : List Char) : Nat := cs.foldl (fun n c => n * 10 + (c.toNat - '0'.toNat)) 0

/-- Reads an exponent with its letter, which may be missing altogether, at the end of a text. -/
def readExponent? : List Char → Option Int
  | [] => some 0
  | c :: rest =>
    if c = 'e' ∨ c = 'E' then
      let (negative, ds) : Bool × List Char := match rest with
        | '-' :: ds => (true, ds)
        | '+' :: ds => (false, ds)
        | ds => (false, ds)
      if ds.isEmpty || !ds.all Char.isDigit then none
      else some (if negative then -(ofDigitChars ds) else ofDigitChars ds)
    else none

/-- Reads a decimal without a sign. -/
def readUnsigned? (cs : List Char) : Option Decimal :=
  let whole := cs.takeWhile Char.isDigit
  let rest := cs.drop whole.length
  let (places, rest) := match rest with
    | '.' :: rest => (rest.takeWhile Char.isDigit, rest.dropWhile Char.isDigit)
    | rest => ([], rest)
  if whole.isEmpty && places.isEmpty then none
  else
    (readExponent? rest).map fun e => ⟨ofDigitChars (whole ++ places), e - places.length⟩

/-- Reads a decimal with an optional sign, and gives the number nearest to it. -/
def read? : List Char → Option Binary64
  | '-' :: cs => (readUnsigned? cs).map (round true)
  | '+' :: cs => (readUnsigned? cs).map (round false)
  | cs => (readUnsigned? cs).map (round false)

end TokenAtlas.Decimal
