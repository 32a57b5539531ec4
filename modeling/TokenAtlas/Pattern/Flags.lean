/-!
# Flags of patterns

Flags change how a part of a pattern is read.  They are set by a directive for the rest of the
enclosing group, or for one group.
-/

namespace TokenAtlas.Pattern

/-- The flags in force at a place of a pattern. -/
structure Flags where
  /-- Letters match in both cases. -/
  ignoreCase : Bool := false
  /-- The line anchors match at every line. -/
  multiLine : Bool := false
  /-- The dot matches line ends too. -/
  dotAll : Bool := false
  /-- Classes and word anchors know all scripts, not only ASCII. -/
  unicode : Bool := true
  /-- A carriage return ends a line too. -/
  crlf : Bool := false
  /-- Blanks and comments are left out. -/
  verbose : Bool := false
  deriving DecidableEq, Repr

/-- A change of flags as it is written: letters and whether they are set or cleared. -/
abbrev FlagChanges := List (Char × Bool)

/-- The letters of flags.  One of them swaps greedy and lazy repetitions, which does not change what
    a pattern matches. -/
def isFlagLetter (c : Char) : Bool := c ∈ ['i', 'm', 's', 'U', 'u', 'R', 'x']

/-- Reads the letters of flags up to the colon or parenthesis after them.  A letter must not be
    repeated, and there may be one minus sign, with letters after it. -/
def readFlags (changes : FlagChanges) (minus dangling : Bool) :
    List Char → Option (FlagChanges × Char × List Char)
  | [] => none
  | c :: rest =>
    if c = ':' ∨ c = ')' then if dangling then none else some (changes, c, rest)
    else if c = '-' then if minus then none else readFlags changes true true rest
    else if isFlagLetter c && !changes.any (·.1 == c) then
      readFlags (changes ++ [(c, !minus)]) minus false rest
    else none

/-- The flags after one change. -/
def Flags.set (f : Flags) : Char × Bool → Flags
  | ('i', b) => { f with ignoreCase := b }
  | ('m', b) => { f with multiLine := b }
  | ('s', b) => { f with dotAll := b }
  | ('u', b) => { f with unicode := b }
  | ('R', b) => { f with crlf := b }
  | ('x', b) => { f with verbose := b }
  | _ => f

/-- The flags after some changes. -/
def Flags.apply (f : Flags) (changes : FlagChanges) : Flags := changes.foldl Flags.set f

end TokenAtlas.Pattern
