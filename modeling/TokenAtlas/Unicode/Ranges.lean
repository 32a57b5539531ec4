import TokenAtlas.Text.Hex

/-!
# Sets of characters as ranges

A set of characters is kept as a list of inclusive ranges of code points.  The tables of this
library write such a set as run lengths: hexadecimal numbers that count, in turn, the code points
outside of the set and those inside of it.  `Ranges.ofRuns` reads that form.
-/

namespace TokenAtlas.Unicode

/-- A set of code points, as inclusive ranges. -/
structure Ranges where
  toList : List (Nat × Nat)

/-- The hexadecimal numbers of a text, separated by anything that is no hexadecimal digit.
    `pending` is the value of the digits that were read since the last separator. -/
def hexNumbers (pending : Option Nat) : List Char → List Nat
  | [] => pending.toList
  | c :: rest =>
    match Text.hexDigit? c with
    | some d => hexNumbers (some (pending.getD 0 * 16 + d)) rest
    | none => pending.toList ++ hexNumbers none rest

namespace Ranges

/-- The ranges that run lengths describe, from code point `start` on. -/
def ofRunLengths (start : Nat) : List Nat → List (Nat × Nat)
  | skipped :: taken :: rest =>
    (start + skipped, start + skipped + taken - 1) :: ofRunLengths (start + skipped + taken) rest
  | _ => []

/-- The set that a text of run lengths describes. -/
def ofRuns (text : String) : Ranges := ⟨ofRunLengths 0 (hexNumbers none text.toList)⟩

/-- Whether a character is in the set. -/
def contains (r : Ranges) (c : Char) : Bool :=
  r.toList.any fun (low, high) => low ≤ c.toNat && c.toNat ≤ high

/-- Joins ranges that overlap or touch, in a list that is ordered by the lower ends. -/
def coalesce : List (Nat × Nat) → List (Nat × Nat)
  | [] => []
  | [r] => [r]
  | (low, high) :: (low', high') :: rest =>
    if low' ≤ high + 1 then coalesce ((low, max high high') :: rest)
    else (low, high) :: coalesce ((low', high') :: rest)
termination_by rs => rs.length

/-- The characters of any of the sets, in as few ranges as can be. -/
def unions (rs : List Ranges) : Ranges :=
  ⟨coalesce ((rs.flatMap toList).mergeSort fun a b => a.1 ≤ b.1)⟩

end Ranges

/-- The set that stands under a name in a table. -/
def lookUp? (table : List (List String × String)) (name : String) : Option Ranges :=
  (table.find? (·.1.contains name)).map (Ranges.ofRuns ·.2)

end TokenAtlas.Unicode
