import TokenAtlas.Unicode.Property

/-!
# Classes of characters

A `CharSet` is a class of characters in a pattern.  What it matches is decided by `contains` alone.
Beside it stands how many ranges it was put together from, because classes of many ranges make
patterns large.
-/

namespace TokenAtlas

/-- A class of characters. -/
structure CharSet where
  /-- Whether a character is in the class. -/
  contains : Char → Bool
  /-- The number of ranges of characters that the class was put together from. -/
  ranges : Nat

namespace CharSet

/-- The class without characters. -/
def empty : CharSet := ⟨fun _ => false, 0⟩

instance : Inhabited CharSet := ⟨empty⟩

/-- The class of one character. -/
def singleton (c : Char) : CharSet := ⟨(· == c), 1⟩

/-- The characters from `low` to `high`. -/
def range (low high : Char) : CharSet := ⟨fun c => low ≤ c && c ≤ high, 1⟩

/-- The class of a table of ranges. -/
def ofRanges (r : Unicode.Ranges) : CharSet := ⟨r.contains, r.toList.length⟩

/-- The class of some ASCII ranges. -/
def ascii (pairs : List (Char × Char)) : CharSet :=
  ⟨fun c => pairs.any fun (low, high) => low ≤ c && c ≤ high, pairs.length⟩

/-- All characters but those of a class. -/
def complement (s : CharSet) : CharSet := ⟨fun c => !s.contains c, s.ranges + 1⟩

/-- The characters of one class or the other. -/
def union (s t : CharSet) : CharSet :=
  ⟨fun c => s.contains c || t.contains c, s.ranges + t.ranges⟩

/-- The characters of both classes. -/
def inter (s t : CharSet) : CharSet :=
  ⟨fun c => s.contains c && t.contains c, max s.ranges t.ranges⟩

/-- The characters of the first class that are not in the second. -/
def diff (s t : CharSet) : CharSet :=
  ⟨fun c => s.contains c && !t.contains c, s.ranges + t.ranges⟩

/-- The characters of just one of the classes. -/
def symmDiff (s t : CharSet) : CharSet :=
  ⟨fun c => s.contains c != t.contains c, s.ranges + t.ranges⟩

/-- A letter of the other case, for the letters of ASCII. -/
def swapAsciiCase (c : Char) : Char :=
  if c.isUpper then c.toLower else if c.isLower then c.toUpper else c

/-- The class with every character that differs from one of its characters only in case.  Outside of
    `unicode` only the letters of ASCII have a case. -/
def closeUnderCase (unicode : Bool) (s : CharSet) : CharSet :=
  if unicode then ⟨fun c => s.contains c || (Unicode.caseVariants c).any s.contains, 2 * s.ranges⟩
  else ⟨fun c => s.contains c || s.contains (swapAsciiCase c), 2 * s.ranges⟩

/-- Every character. -/
def any : CharSet := ⟨fun _ => true, 1⟩

/-- Decimal digits of all scripts. -/
def decimalDigit : CharSet := ofRanges Unicode.decimalDigit

/-- Blank characters. -/
def whiteSpace : CharSet := ofRanges Unicode.whiteSpace

/-- What words are made of. -/
def word : CharSet := ofRanges Unicode.wordCharacter

/-- The digits of ASCII. -/
def asciiDigit : CharSet := ascii [('0', '9')]

/-- The blank characters of ASCII. -/
def asciiSpace : CharSet := ascii [('\t', '\r'), (' ', ' ')]

/-- What words are made of in ASCII. -/
def asciiWord : CharSet := ascii [('0', '9'), ('A', 'Z'), ('_', '_'), ('a', 'z')]

/-- The class of ASCII characters that is written by its name between colons. -/
def named? : String → Option CharSet
  | "alnum" => some (ascii [('0', '9'), ('A', 'Z'), ('a', 'z')])
  | "alpha" => some (ascii [('A', 'Z'), ('a', 'z')])
  | "ascii" => some (ascii [('\x00', '\x7f')])
  | "blank" => some (ascii [('\t', '\t'), (' ', ' ')])
  | "cntrl" => some (ascii [('\x00', '\x1f'), ('\x7f', '\x7f')])
  | "digit" => some asciiDigit
  | "graph" => some (ascii [('!', '~')])
  | "lower" => some (ascii [('a', 'z')])
  | "print" => some (ascii [(' ', '~')])
  | "punct" => some (ascii [('!', '/'), (':', '@'), ('[', '\x60'), ('\x7b', '~')])
  | "space" => some asciiSpace
  | "upper" => some (ascii [('A', 'Z')])
  | "word" => some asciiWord
  | "xdigit" => some (ascii [('0', '9'), ('A', 'F'), ('a', 'f')])
  | _ => none

end CharSet

end TokenAtlas
