import TokenAtlas.Text.Hex
import TokenAtlas.Yaml.Char

/-!
# Scalars in YAML texts

A scalar is written plain, between quotes, or as a block of lines.  The readers of this module take
a text at the start of a scalar and give the characters that the scalar stands for, with the
position and the text that follow.

Plain and quoted scalars are words with gaps between them.  A gap on one line stands as it is
written.  A gap with line breaks is folded: one break becomes a space, and further ones are kept in
its place.
-/

namespace TokenAtlas.Yaml

/-- What a reader has read, where it is, and what follows. -/
structure Reading (α : Type) where
  value : α
  mark : Mark
  rest : List Char

/-- The blanks and line breaks between two words. -/
structure Gap where
  /-- The blanks before the first line break, the last one first. -/
  blanks : List Char := []
  /-- Whether the gap goes over the end of a line. -/
  broken : Bool := false
  /-- The first line break, unless it was escaped. -/
  first : Option Char := none
  /-- The other line breaks, the last one first. -/
  more : List Char := []

namespace Gap

/-- The characters that a gap stands for. -/
def fold (g : Gap) : List Char :=
  if g.broken then
    match g.first with
    | some '\n' => if g.more.isEmpty then [' '] else g.more.reverse
    | some c => c :: g.more.reverse
    | none => g.more.reverse
  else g.blanks.reverse

/-- Takes up a blank.  Blanks after a line break do not count. -/
def addBlank (g : Gap) (c : Char) : Gap :=
  if g.broken then g else { g with blanks := c :: g.blanks }

/-- Takes up a line break. -/
def addBreak (g : Gap) (c : Char) : Gap :=
  if g.broken then { g with more := c :: g.more } else { broken := true, first := some c }

end Gap

/-- Reads a gap.  Between words that are indented, a tabulator must not stand before column
    `indent` of a line. -/
def readGap? (indent : Int) (g : Gap) (m : Mark) : List Char → Option (Reading Gap)
  | [] => some ⟨g, m, []⟩
  | c :: rest =>
    if isBlank c then
      if g.broken && m.column < indent && c == '\t' then none
      else readGap? indent (g.addBlank c) (m.after c) rest
    else if isBreak c then readGap? indent (g.addBreak c) (m.after c) rest
    else some ⟨g, m, c :: rest⟩

/-! ## Plain scalars -/

/-- The characters that bound the items of a flow collection. -/
def isFlowBound (c : Char) : Bool := c ∈ [',', '[', ']', '\x7b', '\x7d']

/-- Whether a plain scalar ends before a text: at a colon that ends a word, and in flow collections
    also at what bounds items. -/
def endsPlain (flow : Bool) : List Char → Bool
  | [] => true
  | c :: rest => (c == ':' && endsWord rest) || (flow && isFlowBound c)

/-- Whether a colon stands right before what bounds items, which is not allowed in a plain scalar of
    a flow collection. -/
def isStrayColon (flow : Bool) : List Char → Bool
  | ':' :: c :: _ => flow && (isFlowBound c || c == '?')
  | _ => false

/-- Reads a word of a plain scalar. -/
def readPlainWord? (flow : Bool) (m : Mark) : List Char → Option (Reading (List Char))
  | [] => some ⟨[], m, []⟩
  | c :: rest =>
    if isBlank c || isBreak c then some ⟨[], m, c :: rest⟩
    else if isStrayColon flow (c :: rest) then none
    else if endsPlain flow (c :: rest) then some ⟨[], m, c :: rest⟩
    else (readPlainWord? flow (m.after c) rest).map fun r => { r with value := c :: r.value }

/-- Reads words of a plain scalar and the gaps between them, from after the gap `g` on.  The value
    tells, beside the characters, whether the scalar was followed by a line break.  `fuel` bounds
    the number of words; the length of the text is always enough. -/
def readPlainWords? (flow : Bool) (indent : Int) :
    Nat → Gap → Mark → List Char → Option (Reading (List Char × Bool))
  | 0, _, _, _ => none
  | fuel + 1, g, m, s =>
    if atDocumentSign m s || startsWith '#' s then some ⟨([], g.broken), m, s⟩
    else
      match readPlainWord? flow m s with
      | none => none
      | some word =>
        let text := if word.value.isEmpty then [] else g.fold ++ word.value
        -- Without a word the scalar ends here, and the gap before it counts.
        let broken := word.value.isEmpty && g.broken
        if word.rest.isEmpty || !endsWord word.rest then
          some ⟨(text, broken), word.mark, word.rest⟩
        else
          let before := if word.value.isEmpty then g else {}
          match readGap? indent before word.mark word.rest with
          | none => none
          | some gap =>
            -- A line that is indented too little belongs to something else.
            if !flow && gap.mark.column < indent then
              some ⟨(text, gap.value.broken), gap.mark, gap.rest⟩
            else
              (readPlainWords? flow indent fuel gap.value gap.mark gap.rest).map fun r =>
                { r with value := (text ++ r.value.1, r.value.2) }

/-- Reads a plain scalar.  Outside of flow collections the lines after the first must reach column
    `indent`. -/
def readPlain? (flow : Bool) (indent : Int) (m : Mark) (s : List Char) :
    Option (Reading (List Char × Bool)) :=
  readPlainWords? flow indent (s.length + 1) {} m s

/-! ## Quoted scalars -/

/-- The character that a letter stands for after a backslash. -/
def escape? : Char → Option Char
  | '0' => some '\x00'
  | 'a' => some '\x07'
  | 'b' => some '\x08'
  | 't' => some '\t'
  | '\t' => some '\t'
  | 'n' => some '\n'
  | 'v' => some '\x0b'
  | 'f' => some '\x0c'
  | 'r' => some '\r'
  | 'e' => some '\x1b'
  | ' ' => some ' '
  | '"' => some '"'
  | '/' => some '/'
  | '\\' => some '\\'
  | 'N' => some '\u0085'
  | '_' => some '\u00a0'
  | 'L' => some '\u2028'
  | 'P' => some '\u2029'
  | _ => none

/-- How many hexadecimal digits follow a letter after a backslash. -/
def codeLength? : Char → Option Nat
  | 'x' => some 2
  | 'u' => some 4
  | 'U' => some 8
  | _ => none

/-- The character that hexadecimal digits of a given number stand for at the start of a text. -/
def readCode? (count : Nat) (s : List Char) : Option Char :=
  if s.length < count then none
  else (Text.hexValue? (s.take count)).bind Text.charOfCode?

/-- Reads an escape after its backslash: the character, and how many characters it takes. -/
def readEscape? : List Char → Option (Char × Nat)
  | [] => none
  | c :: rest =>
    match codeLength? c with
    | some count => (readCode? count rest).map (·, count + 1)
    | none => (escape? c).map (·, 1)

/-- A word of a quoted scalar, and how it ends. -/
structure QuotedWord where
  text : List Char
  /-- Whether it ends with an escaped line break. -/
  escapedBreak : Bool := false

/-- Reads a word of a quoted scalar.  `skipped` characters belong to what was read already. -/
def readQuotedWord? (double : Bool) (skipped : Nat) (m : Mark) :
    List Char → Option (Reading QuotedWord)
  | [] => some ⟨⟨[], false⟩, m, []⟩
  | c :: rest =>
    match skipped with
    | k + 1 => readQuotedWord? double k (m.after c) rest
    | 0 =>
      let cons (x : Char) (r : Reading QuotedWord) : Reading QuotedWord :=
        { r with value := { r.value with text := x :: r.value.text } }
      if isBlank c || isBreak c then some ⟨⟨[], false⟩, m, c :: rest⟩
      else if !double && c == '\'' && startsWith '\'' rest then
        (readQuotedWord? double 1 (m.after c) rest).map (cons '\'')
      else if c == (if double then '"' else '\'') then some ⟨⟨[], false⟩, m, c :: rest⟩
      else if double && c == '\\' then
        match rest with
        | [] => none
        | b :: after =>
          if isBreak b then some ⟨⟨[], true⟩, (m.after c).after b, after⟩
          else
            match readEscape? (b :: after) with
            | none => none
            | some (x, count) => (readQuotedWord? double count (m.after c) rest).map (cons x)
      else (readQuotedWord? double 0 (m.after c) rest).map (cons c)

/-- Reads the words of a quoted scalar up to its closing quote, from after the gap `g` on.  `fuel`
    bounds the number of words; the length of the text is always enough. -/
def readQuotedWords? (double : Bool) :
    Nat → Mark → List Char → Option (Reading (List Char))
  | 0, _, _ => none
  | fuel + 1, m, s =>
    if atDocumentSign m s || s.isEmpty then none
    else
      match readQuotedWord? double 0 m s with
      | none => none
      | some word =>
        match word.rest with
        | [] => none
        | c :: rest =>
          if c == (if double then '"' else '\'') && !word.value.escapedBreak then
            some ⟨word.value.text, word.mark.after c, rest⟩
          else
            -- An escaped line break is a gap that stands for nothing.
            let before : Gap := { broken := word.value.escapedBreak }
            match readGap? 0 before word.mark (c :: rest) with
            | none => none
            | some gap =>
              (readQuotedWords? double fuel gap.mark gap.rest).map fun r =>
                { r with value := word.value.text ++ gap.value.fold ++ r.value }

/-- Reads the rest of a quoted scalar after its first quote. -/
def readQuoted? (double : Bool) (m : Mark) (s : List Char) : Option (Reading (List Char)) :=
  readQuotedWords? double (s.length + 1) m s

/-! ## Blocks of lines -/

/-- What becomes of the line breaks at the end of a block. -/
inductive Chomping
  /-- None is kept. -/
  | strip
  /-- The first is kept. -/
  | clip
  /-- All are kept. -/
  | keep
  deriving DecidableEq, Repr

/-- The header of a block: what becomes of its last line breaks, and by how much it is indented, if
    that is given. -/
structure BlockHeader where
  chomping : Chomping := .clip
  increment : Option Nat := none

/-- Reads a sign for the last line breaks. -/
def readChomping? : List Char → Option (Chomping × List Char)
  | '+' :: rest => some (.keep, rest)
  | '-' :: rest => some (.strip, rest)
  | _ => none

/-- Reads a digit for the indentation, which must not be zero. -/
def readIncrement? : List Char → Option (Option Nat × List Char)
  | [] => some (none, [])
  | c :: rest =>
    if c = '0' then none
    else if c.isDigit then some (some (c.toNat - '0'.toNat), rest)
    else some (none, c :: rest)

/-- Reads the header of a block after its first character: both parts may be there, in either
    order. -/
def readBlockHeader? (s : List Char) : Option (BlockHeader × List Char) :=
  match readChomping? s with
  | some (chomping, rest) =>
    (readIncrement? rest).map fun (increment, rest) => ({ chomping, increment }, rest)
  | none =>
    match readIncrement? s with
    | none => none
    | some (none, rest) => some ({}, rest)
    | some (increment, rest) =>
      match readChomping? rest with
      | some (chomping, rest) => some ({ chomping, increment }, rest)
      | none => some ({ increment }, rest)

/-- Passes over the rest of a line, which may hold blanks and a comment, and over its break. -/
def skipLineEnd? (m : Mark) (s : List Char) : Option (Mark × List Char) :=
  let blanks := s.takeWhile isBlank
  let m := m.afterAll blanks
  let s := s.drop blanks.length
  let comment := if startsWith '#' s then s.takeWhile (!isBreak ·) else []
  let m := m.afterAll comment
  match s.drop comment.length with
  | [] => some (m, [])
  | c :: rest => if isBreak c then some (m.after c, rest) else none

/-- The empty lines before a line of a block. -/
structure BlockGap where
  /-- Their line breaks, the last one first. -/
  breaks : List Char := []
  /-- The greatest column that their spaces reach. -/
  width : Nat := 0

/-- Reads empty lines of a block and the indentation of the line after them.  While the indentation
    is not known, all spaces count.  A tabulator must not stand in place of an indentation. -/
def readBlockGap? (indent : Option Nat) (g : BlockGap) (m : Mark) :
    List Char → Option (Reading BlockGap)
  | [] => some ⟨{ g with width := max g.width m.column }, m, []⟩
  | c :: rest =>
    let inside := match indent with
      | none => true
      | some n => decide (m.column < n)
    if inside && c == ' ' then readBlockGap? indent g (m.after c) rest
    else
      let g := { g with width := max g.width m.column }
      if inside && c == '\t' then none
      else if isBreak c then
        readBlockGap? indent { g with breaks := c :: g.breaks } (m.after c) rest
      else some ⟨g, m, c :: rest⟩

/-- What joins a line of a folded or literal block to the text before it. -/
def joinLine (literal : Bool) (lead : List Char) (breaks : List Char) (foldable : Bool) :
    List Char :=
  if !literal && lead == ['\n'] && foldable then
    if breaks.isEmpty then [' '] else breaks.reverse
  else lead ++ breaks.reverse

/-- Reads the lines of a block whose indentation is known.  `lead` is the break of the line before,
    `breaks` are those of the empty lines after it, and `blankLead` tells whether the line before
    began with a blank.  The value is the text, with the breaks at the end apart.  `fuel` bounds the
    number of lines; the length of the text is always enough. -/
def readBlockLines? (literal : Bool) (indent : Nat) :
    Nat → List Char → List Char → Bool → Mark → List Char →
      Option (Reading (List Char × List Char × List Char))
  | 0, _, _, _, _, _ => none
  | fuel + 1, lead, breaks, blankLead, m, s =>
    match s with
    | [] => some ⟨([], lead, breaks.reverse), m, []⟩
    | c :: rest =>
      -- The gap before stopped short of the indentation, so the block has ended.
      if m.column ≠ indent then some ⟨([], lead, breaks.reverse), m, c :: rest⟩
      else
        let join := joinLine literal lead breaks (!blankLead && !isBlank c)
        let line := s.takeWhile (!isBreak ·)
        let m := m.afterAll line
        let (lead, m, s) := match s.drop line.length with
          | [] => ([], m, [])
          | b :: rest => ([b], m.after b, rest)
        match readBlockGap? (some indent) {} m s with
        | none => none
        | some gap =>
          (readBlockLines? literal indent fuel lead gap.value.breaks (isBlank c) gap.mark
            gap.rest).map fun r => { r with value := (join ++ line ++ r.value.1, r.value.2) }

/-- Reads a block after its first character, inside of a collection that is indented by `parent`,
    which is negative outside of all collections. -/
def readBlock? (literal : Bool) (parent : Int) (m : Mark) (s : List Char) :
    Option (Reading (List Char)) := do
  let (header, rest) ← readBlockHeader? s
  let m := m.afterAll (s.take (s.length - rest.length))
  let (m, s) ← skipLineEnd? m rest
  let given := header.increment.map fun n => (max parent 0).toNat + n
  let gap ← readBlockGap? given {} m s
  -- Empty lines that reach further than the first line with text shift the indentation.
  let indent := given.getD (max (max gap.value.width (parent + 1).toNat) 1)
  let lines ← readBlockLines? literal indent (gap.rest.length + 1) [] gap.value.breaks false
    gap.mark gap.rest
  let (text, lead, breaks) := lines.value
  let tail := match header.chomping with
    | .strip => []
    | .clip => lead
    | .keep => lead ++ breaks
  some ⟨text ++ tail, lines.mark, lines.rest⟩

end TokenAtlas.Yaml
