import TokenAtlas.Yaml.Scalar

/-!
# Tokens of YAML texts

A `Token` is a sign, a scalar, or one of the marks by which indentation bounds collections.

The readers of this module take a text at the start of an anchor, a tag or a directive.
-/

namespace TokenAtlas.Yaml

/-- The tokens of a text. -/
inductive Token
  /-- A directive that names a version. -/
  | version (major minor : Nat)
  /-- A directive that gives a handle of tags its meaning. -/
  | tagHandle (handle meaning : String)
  | documentStart
  | documentEnd
  | blockSequenceStart
  | blockMappingStart
  | blockEnd
  | flowSequenceStart
  | flowSequenceEnd
  | flowMappingStart
  | flowMappingEnd
  | blockEntry
  | flowEntry
  /-- A key follows. -/
  | key
  /-- A value follows. -/
  | value
  | alias (name : String)
  | anchor (name : String)
  /-- A tag: its handle, which may be empty, and the rest of it. -/
  | tag (handle rest : String)
  /-- A scalar, and whether it is written plain. -/
  | scalar (text : String) (plain : Bool)
  deriving DecidableEq, Repr

/-! ## Anchors -/

/-- Reads the name of an anchor or alias after its sign.  It has one character at least, and a blank
    or one of a few signs follows it. -/
def readAnchorName? (m : Mark) (s : List Char) : Option (Reading String) :=
  let name := s.takeWhile isWordChar
  let rest := s.drop name.length
  let bounded := match rest with
    | [] => true
    | c :: _ => isBlank c || isBreak c || c ∈ ['?', ':', ',', ']', '\x7d', '%', '@', '\x60']
  if name.isEmpty || !bounded then none else some ⟨String.ofList name, m.afterAll name, rest⟩

/-! ## Tags -/

/-- Whether a character may stand in a tag.  Between angle brackets a few more may. -/
def isTagChar (verbatim : Bool) (c : Char) : Bool :=
  isWordChar c || c ∈ ";/?:@&=+$.%!~*'()".toList || (verbatim && c ∈ [',', '[', ']'])

/-- How many bytes the UTF-8 form of a character has that begins with a byte. -/
def utf8Length? (b : Nat) : Option Nat :=
  if b < 0x80 then some 1
  else if b / 0x20 = 0x6 then some 2
  else if b / 0x10 = 0xE then some 3
  else if b / 0x8 = 0x1E then some 4
  else none

/-- Reads a byte that is written as a per cent sign and two hexadecimal digits. -/
def readEscapedByte? : List Char → Option (Nat × List Char)
  | '%' :: a :: b :: rest => (Text.hexValue? [a, b]).map (·, rest)
  | _ => none

/-- Reads the bytes of a character after the first, each of them escaped. -/
def readTrailingBytes? (acc : Nat) : Nat → List Char → Option (Nat × List Char)
  | 0, s => some (acc, s)
  | n + 1, s =>
    match readEscapedByte? s with
    | some (b, rest) =>
      if b / 0x40 = 2 then readTrailingBytes? (acc * 0x40 + b % 0x40) n rest else none
    | none => none

/-- Reads a character whose UTF-8 form is escaped. -/
def readEscapedChar? (s : List Char) : Option (Char × List Char) := do
  let (b, rest) ← readEscapedByte? s
  let n ← utf8Length? b
  let first := if n = 1 then b else b % Nat.pow 2 (7 - n)
  let (code, rest) ← readTrailingBytes? first (n - 1) rest
  some (Char.ofNat code, rest)

/-- Reads the characters of a tag.  `fuel` bounds their number; the length of the text is always
    enough. -/
def readTagChars? (verbatim : Bool) : Nat → List Char → Option (List Char × List Char)
  | 0, s => some ([], s)
  | fuel + 1, s =>
    match s with
    | [] => some ([], [])
    | c :: rest =>
      if !isTagChar verbatim c then some ([], c :: rest)
      else if c = '%' then
        match readEscapedChar? (c :: rest) with
        | none => none
        | some (x, rest) => (readTagChars? verbatim fuel rest).map fun (xs, r) => (x :: xs, r)
      else (readTagChars? verbatim fuel rest).map fun (xs, r) => (c :: xs, r)

/-- Reads a handle: an exclamation mark, and perhaps a word and another exclamation mark. -/
def readHandle? : List Char → Option (List Char × List Char)
  | '!' :: rest =>
    let word := rest.takeWhile isWordChar
    match rest.drop word.length with
    | '!' :: after => some ('!' :: (word ++ ['!']), after)
    | after => some ('!' :: word, after)
  | _ => none

/-- Reads a tag as its handle and the rest of it. -/
def readTagParts? : List Char → Option ((List Char × List Char) × List Char)
  | '!' :: '<' :: rest =>
    match readTagChars? true rest.length rest with
    | some (body, '>' :: rest) => if body.isEmpty then none else some (([], body), rest)
    | _ => none
  | s =>
    match readHandle? s with
    | none => none
    | some (handle, rest) =>
      match readTagChars? false rest.length rest with
      | none => none
      | some (body, rest) =>
        if handle.length ≥ 2 && handle.getLast? == some '!' then
          if body.isEmpty then none else some ((handle, body), rest)
        else
          let body := handle.drop 1 ++ body
          some (if body.isEmpty then ([], ['!']) else (['!'], body), rest)

/-- Reads a tag.  A blank follows it, or a comma in a flow collection. -/
def readTag? (flow : Bool) (m : Mark) (s : List Char) : Option (Reading Token) := do
  let ((handle, body), rest) ← readTagParts? s
  if endsWord rest || (flow && startsWith ',' rest) then
    some ⟨.tag (String.ofList handle) (String.ofList body),
      m.afterAll (s.take (s.length - rest.length)), rest⟩
  else none

/-! ## Directives -/

/-- Reads a number of at most nine digits. -/
def readVersionNumber? (s : List Char) : Option (Nat × List Char) :=
  let ds := s.takeWhile Char.isDigit
  if ds.isEmpty || 9 < ds.length then none
  else some (ds.foldl (fun n c => n * 10 + (c.toNat - '0'.toNat)) 0, s.drop ds.length)

/-- Reads what follows the name of a version directive. -/
def readVersion? (s : List Char) : Option (Token × List Char) := do
  let (major, rest) ← readVersionNumber? (s.dropWhile isBlank)
  match rest with
  | '.' :: rest =>
    let (minor, rest) ← readVersionNumber? rest
    some (.version major minor, rest)
  | _ => none

/-- Reads what follows the name of a directive for a handle of tags. -/
def readTagHandle? (s : List Char) : Option (Token × List Char) := do
  let (handle, rest) ← readHandle? (s.dropWhile isBlank)
  if handle.getLast? != some '!' then none
  match rest with
  | [] => none
  | c :: _ =>
    if !isBlank c then none
    let s := rest.dropWhile isBlank
    let (meaning, rest) ← readTagChars? true s.length s
    if meaning.isEmpty || !endsWord rest then none
    some (.tagHandle (String.ofList handle) (String.ofList meaning), rest)

/-- Reads a directive after its per cent sign, with the line that it stands on. -/
def readDirective? (m : Mark) (s : List Char) : Option (Reading Token) := do
  let name := s.takeWhile isWordChar
  let rest := s.drop name.length
  if name.isEmpty || !endsWord rest then none
  let (token, rest) ← match String.ofList name with
    | "YAML" => readVersion? rest
    | "TAG" => readTagHandle? rest
    | _ => none
  let (m, rest) ← skipLineEnd? (m.afterAll (s.take (s.length - rest.length))) rest
  some ⟨token, m, rest⟩

end TokenAtlas.Yaml
