import TokenAtlas.Pattern.Basic
import TokenAtlas.Pattern.Flags
import TokenAtlas.Text.Hex

/-!
# Single characters and escapes in patterns

The smallest parts of a pattern are read here: `Atom.readEscape?` reads what follows a backslash.
What an escape stands for depends on the flags, and some escapes are only allowed under some flags.
-/

namespace TokenAtlas.Pattern

/-- Whether a character is blank. -/
def isBlank (c : Char) : Bool := Unicode.whiteSpace.contains c

/-- What follows blanks and comments; a comment goes from a number sign to the end of the line. -/
def skipComments (inComment : Bool) : List Char → List Char
  | [] => []
  | c :: rest =>
    if inComment then skipComments (c != '\n') rest
    else if isBlank c then skipComments false rest
    else if c = '#' then skipComments true rest
    else c :: rest

/-- What follows the blanks and comments that the flags allow. -/
def skip (f : Flags) (s : List Char) : List Char := if f.verbose then skipComments false s else s

/-- The characters up to a closing brace, without the blanks and comments that the flags allow, and
    what follows the brace. -/
def readBraced? (f : Flags) (inComment : Bool) : List Char → Option (List Char × List Char)
  | [] => none
  | c :: rest =>
    if inComment then readBraced? f (c != '\n') rest
    else if f.verbose && isBlank c then readBraced? f false rest
    else if f.verbose && c == '#' then readBraced? f true rest
    else if c = '\x7d' then some ([], rest)
    else (readBraced? f false rest).map fun (cs, rest) => (c :: cs, rest)

/-- The smallest parts of a pattern. -/
inductive Atom
  /-- A character that stands for itself.  `byte` tells that it was written as a byte. -/
  | literal (c : Char) (byte : Bool)
  /-- A class of characters. -/
  | set (s : CharSet)
  /-- A condition on the position. -/
  | anchor (a : Anchor)

namespace Atom

/-- The characters that mean something else when they stand alone. -/
def isMeta (c : Char) : Bool := c ∈ "\\.+*?()|[]\x7b\x7d^$#&-~".toList

/-- Whether a backslash before a character makes it stand for itself. -/
def isEscapable (c : Char) : Bool :=
  isMeta c || (c.toNat < 0x80 && !c.isAlphanum && c != '<' && c != '>')

/-- Reads a number of hexadecimal digits. -/
def readHexDigits? (f : Flags) : Nat → List Char → Option (List Char × List Char)
  | 0, s => some ([], s)
  | n + 1, s =>
    match skip f s with
    | [] => none
    | c :: rest =>
      if (Text.hexDigit? c).isSome then
        (readHexDigits? f n rest).map fun (cs, rest) => (c :: cs, rest)
      else none

/-- The character that hexadecimal digits stand for. -/
def hexChar? (digits : List Char) : Option Char :=
  if digits.isEmpty then none else (Text.hexValue? digits).bind Text.charOfCode?

/-- Reads the code point of a character after its letter: `count` digits, or digits in braces. -/
def readCode? (f : Flags) (count : Nat) (s : List Char) : Option (Atom × List Char) :=
  match skip f s with
  | '\x7b' :: rest => do
    let (digits, rest) ← readBraced? f false rest
    let c ← hexChar? digits
    some (.literal c false, rest)
  | s => do
    let (digits, rest) ← readHexDigits? f count s
    let c ← hexChar? digits
    some (.literal c (count = 2), rest)

/-- The text before and after the first place where a given text stands. -/
def splitAt? (mark : List Char) : List Char → Option (List Char × List Char)
  | [] => if mark.isEmpty then some ([], []) else none
  | c :: rest =>
    if mark.isPrefixOf (c :: rest) then some ([], (c :: rest).drop mark.length)
    else (splitAt? mark rest).map fun (before, after) => (c :: before, after)

/-- The characters with a property, which is written by its name or with a value.  Any of three
    signs may stand before the value, and all of them mean the same. -/
def property? (written : List Char) : Option Unicode.Ranges :=
  let split := splitAt? ['!', '='] written <|> splitAt? [':'] written <|> splitAt? ['='] written
  match split with
  | some (name, value) => Unicode.valueSet? (String.ofList name) (String.ofList value)
  | none => Unicode.propertySet? (String.ofList written)

/-- A class under the flags: closed under case if that is asked for, and negated.  A negated class
    needs the flag for all scripts. -/
def finishSet? (f : Flags) (negated : Bool) (s : CharSet) : Option CharSet :=
  let s := if f.ignoreCase then s.closeUnderCase f.unicode else s
  if negated then if f.unicode then some s.complement else none else some s

/-- Reads the name of a property after its letter. -/
def readProperty? (f : Flags) (negated : Bool) (s : List Char) : Option (Atom × List Char) := do
  let (written, rest) ← match skip f s with
    | '\x7b' :: rest => readBraced? f false rest
    | c :: rest => if c = '\\' then none else some ([c], rest)
    | [] => none
  if !f.unicode then none
  let ranges ← property? written
  let s ← finishSet? f negated (.ofRanges ranges)
  some (.set s, rest)

/-- The class of a letter that stands for digits, blanks or word characters. -/
def letterSet? (f : Flags) (c : Char) : Option CharSet :=
  let base := match c.toLower with
    | 'd' => some (if f.unicode then CharSet.decimalDigit else .asciiDigit)
    | 's' => some (if f.unicode then CharSet.whiteSpace else .asciiSpace)
    | 'w' => some (if f.unicode then CharSet.word else .asciiWord)
    | _ => none
  base.bind fun s =>
    if c.isUpper then if f.unicode then some s.complement else none else some s

/-- Whether a character may stand in the name of a word anchor. -/
def isWordAnchorChar (c : Char) : Bool := c.isAlpha || c == '-'

/-- Reads the name of a word anchor in braces.  When what stands there cannot be such a name, the
    boundary of a word is meant and nothing is read. -/
def readWordAnchor? (f : Flags) (s : List Char) : Option (WordAnchor × List Char) :=
  match s with
  | '\x7b' :: rest =>
    match skip f rest with
    | [] => none
    | c :: _ =>
      if isWordAnchorChar c then
        match readBraced? f false rest with
        | none => none
        | some (name, rest) =>
          match String.ofList name with
          | "start" => some (.start, rest)
          | "end" => some (.finish, rest)
          | "start-half" => some (.startHalf, rest)
          | "end-half" => some (.finishHalf, rest)
          | _ => none
      else some (.boundary, s)
  | s => some (.boundary, s)

/-- What a single letter after a backslash stands for. -/
def ofLetter? (f : Flags) : Char → Option Atom
  | 'a' => some (.literal '\x07' false)
  | 'f' => some (.literal '\x0c' false)
  | 't' => some (.literal '\t' false)
  | 'n' => some (.literal '\n' false)
  | 'r' => some (.literal '\r' false)
  | 'v' => some (.literal '\x0b' false)
  | 'A' => some (.anchor .textStart)
  | 'z' => some (.anchor .textEnd)
  | 'B' => some (.anchor (.word .interior f.unicode))
  | '<' => some (.anchor (.word .start f.unicode))
  | '>' => some (.anchor (.word .finish f.unicode))
  | _ => none

/-- Reads what follows a backslash. -/
def readEscape? (f : Flags) : List Char → Option (Atom × List Char)
  | [] => none
  | c :: rest =>
    match c with
    | 'x' => readCode? f 2 rest
    | 'u' => readCode? f 4 rest
    | 'U' => readCode? f 8 rest
    | 'p' => readProperty? f false rest
    | 'P' => readProperty? f true rest
    | 'b' => (readWordAnchor? f rest).map fun (w, rest) => (.anchor (.word w f.unicode), rest)
    | c =>
      match letterSet? f c with
      | some s => some (.set s, rest)
      | none =>
        if c ∈ ['d', 's', 'w', 'D', 'S', 'W'] then none
        else if isEscapable c then some (.literal c false, rest)
        else (ofLetter? f c).map (·, rest)

end Atom

end TokenAtlas.Pattern
