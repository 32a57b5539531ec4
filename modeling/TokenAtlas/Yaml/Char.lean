/-!
# Characters and positions in YAML texts

Which characters may stand in a YAML text, which of them are blanks and line breaks, and where in
the text a reader is.

The three ways to write a line break that have no meaning of their own are made one by
`unifyBreaks` before anything else is read.
-/

namespace TokenAtlas.Yaml

/-- Whether a character may stand in a text. -/
def isPermitted (c : Char) : Bool :=
  c == '\t' || c == '\n' || c == '\r' || (' ' ≤ c && c ≤ '~') || c.toNat == 0x85 ||
    (0xA0 ≤ c.toNat && c.toNat ≤ 0xD7FF) || (0xE000 ≤ c.toNat && c.toNat ≤ 0xFFFD) ||
    0x10000 ≤ c.toNat

/-- Writes every line break that is a carriage return, a line feed, both, or a next-line character
    as a line feed. -/
def unifyBreaks : List Char → List Char
  | [] => []
  | '\r' :: '\n' :: rest => '\n' :: unifyBreaks rest
  | c :: rest => (if c = '\r' ∨ c.toNat = 0x85 then '\n' else c) :: unifyBreaks rest

/-- Whether a character breaks a line, once breaks are unified. -/
def isBreak (c : Char) : Bool := c == '\n' || c.toNat == 0x2028 || c.toNat == 0x2029

/-- Whether a character is a space or a tabulator. -/
def isBlank (c : Char) : Bool := c == ' ' || c == '\t'

/-- Whether a text is at its end or begins with a blank or a line break. -/
def endsWord : List Char → Bool
  | [] => true
  | c :: _ => isBlank c || isBreak c

/-- Whether a text begins with a given character. -/
def startsWith (c : Char) : List Char → Bool
  | [] => false
  | x :: _ => x == c

/-- Letters, digits, the hyphen and the underscore. -/
def isWordChar (c : Char) : Bool := c.isAlphanum || c == '-' || c == '_'

/-- A position in a text. -/
structure Mark where
  /-- The number of characters before it. -/
  index : Nat
  /-- The number of line breaks before it. -/
  line : Nat
  /-- The number of characters before it on its line. -/
  column : Nat
  deriving DecidableEq, Repr

namespace Mark

/-- The start of a text. -/
def start : Mark := ⟨0, 0, 0⟩

/-- The position after a character. -/
def after (m : Mark) (c : Char) : Mark :=
  if isBreak c then ⟨m.index + 1, m.line + 1, 0⟩ else ⟨m.index + 1, m.line, m.column + 1⟩

/-- The position after some characters. -/
def afterAll (m : Mark) (cs : List Char) : Mark := cs.foldl Mark.after m

end Mark

/-- Whether a line begins here with one of the two signs that bound documents: three hyphens or
    three dots, followed by the end of the word. -/
def atDocumentSign (m : Mark) (s : List Char) : Bool :=
  m.column == 0 && (s.take 3 == ['-', '-', '-'] || s.take 3 == ['.', '.', '.']) &&
    endsWord (s.drop 3)

end TokenAtlas.Yaml
