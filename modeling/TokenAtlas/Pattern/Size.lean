import TokenAtlas.Pattern.Parser

/-!
# Patterns that are accepted

A pattern is accepted when its text is read, its parts do not nest too deep, and its compiled form
does not grow too large.  How large a compiled form is only its compiler knows, and the compiler is
not part of this library.  Its count is therefore a parameter, `Pattern.SizeCheck`.  Results hold
whatever it counts, unless they name what they rely on.

The program needs some count to run with.  `Pattern.SizeCheck.standIn` is a rough one.
-/

namespace TokenAtlas.Pattern

/-- The count of the compiler of patterns. -/
class SizeCheck where
  /-- The number of bytes that the compiled form of a text takes. -/
  compiledSize : String → Nat

/-- How many bytes the compiled form of a pattern may take. -/
def sizeLimit : Nat := 10 * 1024 * 1024

/-- How deep the parts of a pattern may nest. -/
def maxNest : Nat := 250

/-- The pattern of a text, if it is well formed and neither too deep nor too large. -/
def parse? [SizeCheck] (text : String) : Option Pattern := do
  let piece ← read? text
  if piece.nest ≤ maxNest ∧ SizeCheck.compiledSize text ≤ sizeLimit then some piece.pattern
  else none

/-- A text is accepted just when it is read and passes both checks. -/
theorem parse?_eq_some_iff [SizeCheck] {text : String} {p : Pattern} :
    parse? text = some p ↔ ∃ piece, read? text = some piece ∧ piece.nest ≤ maxNest ∧
      SizeCheck.compiledSize text ≤ sizeLimit ∧ piece.pattern = p := by
  rw [parse?, Option.bind_eq_bind, Option.bind_eq_some_iff]
  simp [and_assoc]

/-! ## The count of the program -/

/-- How many single characters and ranges of characters there are in a pattern when every repetition
    with a count is written out. -/
def writtenLength : Pattern → Nat
  | .empty => 0
  | .char _ => 1
  | .set s => s.ranges
  | .anchor _ => 0
  | .seq p q => p.writtenLength + q.writtenLength
  | .alt p q => p.writtenLength + q.writtenLength
  | .repetition p min none => Nat.max min 1 * p.writtenLength
  | .repetition p _ (some max) => max * p.writtenLength
  | .group p => p.writtenLength

/-- A rough count, in the place of the compiler's own: 72 bytes for everything that is written out.
    The program runs with it. -/
instance SizeCheck.standIn : SizeCheck where
  compiledSize text :=
    match read? text with
    | some piece => 72 * piece.pattern.writtenLength
    | none => 0

end TokenAtlas.Pattern
