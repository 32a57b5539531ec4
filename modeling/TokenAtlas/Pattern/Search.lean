import TokenAtlas.Pattern.Basic

/-!
# Searching for a pattern

A search follows all matches at once.  A set of positions of the text is kept as the bits of a
natural number, and `Pattern.step` gives, for the set of positions where matches of a pattern begin,
the set of positions where they end.  A pattern occurs in a text when that set is not empty for the
matches that begin anywhere.

Nothing is tried twice, so no pattern makes a search run away.  A repetition without a limit grows a
set of positions until it grows no more, which it does at most once for every position.
-/

namespace TokenAtlas.Pattern

/-- The positions of a text that satisfy a condition on the characters before and after them, from
    the position after `before` on. -/
def positions (holds : Option Char → Option Char → Bool) (before : Option Char) :
    List Char → Nat
  | [] => (holds before none).toNat
  | c :: rest => (holds before (some c)).toNat + 2 * positions holds (some c) rest

/-- The positions right after those of a set where a character of a class stands. -/
def advance (t : List Char) (contains : Char → Bool) (s : Nat) : Nat :=
  2 * (s &&& positions (fun _ after => after.any contains) none t)

/-- The positions reached by exactly `n` steps.  A set that a step leaves alone stays as it is. -/
def iterate (f : Nat → Nat) : Nat → Nat → Nat
  | 0, s => s
  | n + 1, s => if f s = s then s else iterate f n (f s)

/-- The positions reached by at most `n` steps. -/
def grow (f : Nat → Nat) : Nat → Nat → Nat
  | 0, s => s
  | n + 1, s => if s ||| f s = s then s else grow f n (s ||| f s)

/-- The ends of the matches that begin at the positions of a set. -/
def step (t : List Char) : Pattern → Nat → Nat
  | .empty, s => s
  | .char c, s => advance t (· == c) s
  | .set cs, s => advance t cs.contains s
  | .anchor a, s => s &&& positions a.holds none t
  | .seq p q, s => step t q (step t p s)
  | .alt p q, s => step t p s ||| step t q s
  | .repetition p min none, s => grow (step t p) (t.length + 1) (iterate (step t p) min s)
  | .repetition p min (some max), s => grow (step t p) (max - min) (iterate (step t p) min s)
  | .group p, s => step t p s

/-- All positions of a text. -/
def allPositions (t : List Char) : Nat := Nat.pow 2 (t.length + 1) - 1

/-- Whether a pattern matches some span of a text. -/
def occursIn (p : Pattern) (text : String) : Bool :=
  p.step text.toList (allPositions text.toList) != 0

end TokenAtlas.Pattern
