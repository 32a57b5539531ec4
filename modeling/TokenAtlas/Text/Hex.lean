/-!
# Hexadecimal digits

Reading hexadecimal digits of either case.
-/

namespace TokenAtlas.Text

/-- The value of a hexadecimal digit. -/
def hexDigit? (c : Char) : Option Nat :=
  if '0' ≤ c ∧ c ≤ '9' then some (c.toNat - '0'.toNat)
  else if 'a' ≤ c ∧ c ≤ 'f' then some (c.toNat - 'a'.toNat + 10)
  else if 'A' ≤ c ∧ c ≤ 'F' then some (c.toNat - 'A'.toNat + 10)
  else none

/-- The value of a row of hexadecimal digits that continue the number `acc`. -/
def hexValueFrom? (acc : Nat) : List Char → Option Nat
  | [] => some acc
  | c :: rest =>
    match hexDigit? c with
    | some d => hexValueFrom? (acc * 16 + d) rest
    | none => none

/-- The value of a row of hexadecimal digits. -/
def hexValue? (cs : List Char) : Option Nat := hexValueFrom? 0 cs

/-- The character with a code point, which surrogates and too great numbers do not have. -/
def charOfCode? (n : Nat) : Option Char :=
  if n.isValidChar then some (Char.ofNat n) else none

end TokenAtlas.Text
