import TokenAtlas.Json.Numeral
import TokenAtlas.Text.Hex

/-!
# Reading JSON

`Json.read?` reads a whole text.  Blanks are the space, the tabulator and the two line ends, and
they may stand around every token.  Arrays and objects nest to a depth of `Json.maxDepth`.

The reader of values recurses on the depth that is left; the items of one array or object are read
by `readItems`, for any reader of items.
-/

namespace TokenAtlas.Json

/-- How deep arrays and objects may nest. -/
def maxDepth : Nat := 127

/-- Whether a character is blank. -/
def isBlank (c : Char) : Bool := c = ' ' || c = '\n' || c = '\t' || c = '\r'

/-- What follows the blanks that a text begins with. -/
def skipBlanks (s : List Char) : List Char := s.dropWhile isBlank

/-- The character that stands for itself after a backslash, or that a letter stands for there. -/
def shortEscape? : Char → Option Char
  | '"' => some '"'
  | '\\' => some '\\'
  | '/' => some '/'
  | 'b' => some '\x08'
  | 'f' => some '\x0c'
  | 'n' => some '\n'
  | 'r' => some '\r'
  | 't' => some '\t'
  | _ => none

/-- Whether a code unit is the first half of a surrogate pair. -/
def isHighSurrogate (u : Nat) : Bool := 0xD800 ≤ u && u < 0xDC00

/-- Whether a code unit is the second half of a surrogate pair. -/
def isLowSurrogate (u : Nat) : Bool := 0xDC00 ≤ u && u < 0xE000

/-- The character that a surrogate pair stands for. -/
def surrogatePair (high low : Nat) : Char :=
  Char.ofNat ((high - 0xD800) * 0x400 + (low - 0xDC00) + 0x10000)

/-- Puts a character in front of what was read. -/
def consChar (c : Char) : List Char × List Char → List Char × List Char :=
  fun (cs, rest) => (c :: cs, rest)

/-- Reads the rest of a string after its first quote.  Control characters must be escaped, and the
    escapes of surrogates must come in pairs. -/
def readString? : List Char → Option (List Char × List Char)
  | [] => none
  | '"' :: rest => some ([], rest)
  | '\\' :: 'u' :: a :: b :: c :: d :: rest =>
    match Text.hexValue? [a, b, c, d] with
    | none => none
    | some u =>
      -- The second half of a pair cannot come first, and the first half cannot stand alone.
      if isLowSurrogate u then none
      else if isHighSurrogate u then
        match rest with
        | '\\' :: 'u' :: a :: b :: c :: d :: rest =>
          match Text.hexValue? [a, b, c, d] with
          | none => none
          | some v =>
            if isLowSurrogate v then (readString? rest).map (consChar (surrogatePair u v))
            else none
        | _ => none
      else (readString? rest).map (consChar (Char.ofNat u))
  | '\\' :: c :: rest =>
    match shortEscape? c with
    | none => none
    | some c => (readString? rest).map (consChar c)
  | c :: rest => if c < ' ' then none else (readString? rest).map (consChar c)

/-- Reads items between commas up to the closing character.  `fuel` bounds their number; the length
    of the text is always enough. -/
def readItems {α : Type} (item : List Char → Option (α × List Char)) (close : Char) :
    Nat → List Char → Option (List α × List Char)
  | 0, _ => none
  | fuel + 1, s =>
    match item (skipBlanks s) with
    | none => none
    | some (x, s) =>
      match skipBlanks s with
      | [] => none
      | c :: rest =>
        -- After a comma another item must follow.
        if c = close then some ([x], rest)
        else if c = ',' then (readItems item close fuel rest).map fun (xs, rest) => (x :: xs, rest)
        else none

/-- Reads the items of an array or object after its opening character. -/
def readSequence {α : Type} (item : List Char → Option (α × List Char)) (close : Char)
    (s : List Char) : Option (List α × List Char) :=
  match skipBlanks s with
  | [] => none
  | c :: rest => if c = close then some ([], rest) else readItems item close s.length (c :: rest)

/-- Reads the name of a member and the colon after it. -/
def readName? : List Char → Option (String × List Char)
  | '"' :: rest =>
    match readString? rest with
    | none => none
    | some (name, rest) =>
      match skipBlanks rest with
      | ':' :: rest => some (String.ofList name, skipBlanks rest)
      | _ => none
  | _ => none

/-- Reads a member of an object: its name, a colon and its value. -/
def readMember {α : Type} (value : List Char → Option (α × List Char)) (s : List Char) :
    Option ((String × α) × List Char) :=
  match readName? s with
  | none => none
  | some (name, rest) => (value rest).map fun (x, rest) => ((name, x), rest)

/-- Reads a value that is neither an array nor an object. -/
def readScalar : List Char → Option (Json × List Char)
  | 'n' :: 'u' :: 'l' :: 'l' :: rest => some (.null, rest)
  | 't' :: 'r' :: 'u' :: 'e' :: rest => some (.bool true, rest)
  | 'f' :: 'a' :: 'l' :: 's' :: 'e' :: rest => some (.bool false, rest)
  | '"' :: rest => (readString? rest).map fun (cs, rest) => (.string (String.ofList cs), rest)
  | s => (readNumber? s).map fun (n, rest) => (.number n, rest)

/-- Reads a value in which arrays and objects nest at most to the given depth. -/
def readValue : Nat → List Char → Option (Json × List Char)
  | 0, s => readScalar s
  | depth + 1, s =>
    match s with
    | '[' :: rest =>
      (readSequence (readValue depth) ']' rest).map fun (xs, rest) => (.array xs, rest)
    | '\x7b' :: rest =>
      (readSequence (readMember (readValue depth)) '\x7d' rest).map fun (ms, rest) =>
        (.object ms, rest)
    | s => readScalar s

/-- Reads a text that consists of one thing and blanks around it. -/
def readWhole? {α : Type} (thing : List Char → Option (α × List Char)) (text : String) :
    Option α :=
  match thing (skipBlanks text.toList) with
  | none => none
  | some (x, rest) => if (skipBlanks rest).isEmpty then some x else none

/-- Reads a JSON text. -/
def read? (text : String) : Option Json := readWhole? (readValue maxDepth) text

/-! ## Passing over values

A value that nobody asks for is passed over.  Its form is checked, but not what only its meaning
could offend against: surrogates need not come in pairs, numbers may be of any size, and there is no
limit to the depth. -/

/-- Passes over the rest of a string after its first quote. -/
def skipString? : List Char → Option (List Char)
  | [] => none
  | '"' :: rest => some rest
  | '\\' :: 'u' :: a :: b :: c :: d :: rest =>
    if (Text.hexValue? [a, b, c, d]).isSome then skipString? rest else none
  | '\\' :: c :: rest => if (shortEscape? c).isSome then skipString? rest else none
  | c :: rest => if c < ' ' then none else skipString? rest

/-- Passes over the name of a member and the colon after it. -/
def skipName? : List Char → Option (List Char)
  | '"' :: rest =>
    match skipString? rest with
    | none => none
    | some rest =>
      match skipBlanks rest with
      | ':' :: rest => some (skipBlanks rest)
      | _ => none
  | _ => none

/-- Passes over a value that is neither an array nor an object. -/
def skipScalar : List Char → Option (List Char)
  | 'n' :: 'u' :: 'l' :: 'l' :: rest => some rest
  | 't' :: 'r' :: 'u' :: 'e' :: rest => some rest
  | 'f' :: 'a' :: 'l' :: 's' :: 'e' :: rest => some rest
  | '"' :: rest => skipString? rest
  | s => (Numeral.read? s).map (·.2)

/-- Passes over a value.  `depth` bounds the nesting; the length of the text is always enough. -/
def skipValue : Nat → List Char → Option (Unit × List Char)
  | 0, s => (skipScalar s).map ((), ·)
  | depth + 1, s =>
    match s with
    | '[' :: rest => (readSequence (skipValue depth) ']' rest).map fun (_, rest) => ((), rest)
    | '\x7b' :: rest =>
      (readSequence (fun s => (skipName? s).bind (skipValue depth)) '\x7d' rest).map
        fun (_, rest) => ((), rest)
    | s => (skipScalar s).map ((), ·)

end TokenAtlas.Json
