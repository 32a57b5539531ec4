import TokenAtlas.Pattern.CharSet

/-!
# Patterns

A `Pattern` is the tree of a regular expression, with the flags that were in force already applied:
a literal that ignores case is a class, and a line anchor says which line ends it knows.

`Anchor.holds` decides an anchor from the two characters that a position lies between.
-/

namespace TokenAtlas

/-- What an anchor asks of the words around a position. -/
inductive WordAnchor
  /-- A word begins or ends. -/
  | boundary
  /-- No word begins or ends. -/
  | interior
  /-- A word begins. -/
  | start
  /-- A word ends. -/
  | finish
  /-- No word stands before. -/
  | startHalf
  /-- No word stands after. -/
  | finishHalf
  deriving DecidableEq, Repr

/-- A condition on a position. -/
inductive Anchor
  /-- The start of the text. -/
  | textStart
  /-- The end of the text. -/
  | textEnd
  /-- The start of a line.  With `crlf` a carriage return ends a line too. -/
  | lineStart (crlf : Bool)
  /-- The end of a line. -/
  | lineEnd (crlf : Bool)
  /-- A condition on words; outside of `unicode` these consist of ASCII characters. -/
  | word (what : WordAnchor) (unicode : Bool)
  deriving DecidableEq, Repr

namespace Anchor

/-- Whether a word anchor holds, from whether word characters stand before and after. -/
def wordHolds : WordAnchor → Bool → Bool → Bool
  | .boundary, before, after => before != after
  | .interior, before, after => before == after
  | .start, before, after => !before && after
  | .finish, before, after => before && !after
  | .startHalf, before, _ => !before
  | .finishHalf, _, after => !after

/-- Whether a character, if there is one, is in a class. -/
def isIn (s : CharSet) (c : Option Char) : Bool := c.any s.contains

/-- Whether an anchor holds between two characters; at the ends of the text one is missing. -/
def holds (a : Anchor) (before after : Option Char) : Bool :=
  match a with
  | .textStart => before.isNone
  | .textEnd => after.isNone
  | .lineStart false => before.isNone || before == some '\n'
  | .lineStart true =>
    before.isNone || before == some '\n' || (before == some '\r' && after != some '\n')
  | .lineEnd false => after.isNone || after == some '\n'
  | .lineEnd true =>
    after.isNone || after == some '\r' || (after == some '\n' && before != some '\r')
  | .word what unicode =>
    let word := if unicode then CharSet.word else CharSet.asciiWord
    wordHolds what (isIn word before) (isIn word after)

end Anchor

/-- The tree of a regular expression. -/
inductive Pattern
  /-- The empty span. -/
  | empty
  /-- One given character. -/
  | char (c : Char)
  /-- One character of a class. -/
  | set (s : CharSet)
  /-- The empty span, where a condition holds. -/
  | anchor (a : Anchor)
  /-- A span of the first, followed by one of the second. -/
  | seq (p q : Pattern)
  /-- A span of either. -/
  | alt (p q : Pattern)
  /-- At least `min` spans in a row, and at most `max` if that is given. -/
  | repetition (p : Pattern) (min : Nat) (max : Option Nat)
  /-- A span of the body. -/
  | group (p : Pattern)
  deriving Inhabited

namespace Pattern

/-- The pattern that matches its parts one after the other. -/
def concat : List Pattern → Pattern
  | [] => .empty
  | [p] => p
  | p :: rest => .seq p (concat rest)

/-- The pattern that matches as one of its branches. -/
def alternation : List Pattern → Pattern
  | [] => .empty
  | [p] => p
  | p :: rest => .alt p (alternation rest)

end Pattern

end TokenAtlas
