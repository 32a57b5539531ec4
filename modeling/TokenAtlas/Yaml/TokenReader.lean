import TokenAtlas.Yaml.Token

/-!
# From YAML texts to tokens

`Token.ofText?` gives the tokens of a text.  Most tokens begin where they are read.  Two things are
only known later.

A scalar, an alias or a whole flow collection may turn out to be a key when a colon follows.  So the
place where one begins is kept as a `KeyStart`, one for every level of flow collections, and the
token for the key is put in at that place when the colon comes.  A key must be on one line and have
at most `keyLimit` characters.

Indentation bounds block collections.  A `TokenReader` keeps the column of the innermost one and of
those around it; a token to the left of that column ends collections first.
-/

namespace TokenAtlas.Yaml

/-- The greatest number of characters from the start of a key to its colon. -/
def keyLimit : Nat := 1024

/-- A place where a key may have begun. -/
structure KeyStart where
  /-- Whether nothing else can have begun there: it is the first token at the indentation of a block
      mapping. -/
  required : Bool
  /-- The number of tokens before it. -/
  position : Nat
  mark : Mark
  deriving DecidableEq, Repr

/-- How far a text was read, and what was found. -/
structure TokenReader where
  mark : Mark
  rest : List Char
  /-- The column of the innermost block collection; negative outside of all. -/
  indent : Int
  /-- The columns of the collections around it, from the inside to the outside. -/
  indents : List Int
  /-- How many flow collections are open. -/
  flow : Nat
  /-- Whether a key may begin here. -/
  keyAllowed : Bool
  /-- Where a key may have begun, for every level of flow collections, the innermost first. -/
  keys : List (Option KeyStart)
  /-- The tokens that were found, the last one first. -/
  tokens : List Token

namespace TokenReader

/-- The reader at the start of a text. -/
def start (s : List Char) : TokenReader where
  mark := .start
  rest := s
  indent := -1
  indents := []
  flow := 0
  keyAllowed := true
  keys := [none]
  tokens := []

/-- Adds a token. -/
def emit (st : TokenReader) (t : Token) : TokenReader := { st with tokens := t :: st.tokens }

/-- Puts a token in after the first `position` tokens. -/
def emitAt (st : TokenReader) (position : Nat) (t : Token) : TokenReader :=
  { st with tokens := st.tokens.insertIdx (st.tokens.length - position) t }

/-- Passes over one character. -/
def pass (st : TokenReader) : TokenReader :=
  match st.rest with
  | [] => st
  | c :: rest => { st with mark := st.mark.after c, rest }

/-- Goes on after something that was read. -/
def goto {α : Type} (st : TokenReader) (r : Reading α) : TokenReader :=
  { st with mark := r.mark, rest := r.rest }

/-! ## Blanks -/

/-- Passes over blanks, line breaks and comments.  `inComment` tells whether a comment has begun.
    A byte order mark may stand at the start of a line.  Outside of flow collections a line break
    lets a key begin, and a tabulator may not stand where a key may begin. -/
def skipBlanks (block keyAllowed inComment : Bool) (m : Mark) :
    List Char → Mark × List Char × Bool
  | [] => (m, [], keyAllowed)
  | c :: rest =>
    -- A line break ends a comment.
    if isBreak c then skipBlanks block (keyAllowed || block) false (m.after c) rest
    else if inComment then skipBlanks block keyAllowed true (m.after c) rest
    else if c == ' ' || (c == '\t' && !(block && keyAllowed)) ||
        (c.toNat == 0xFEFF && m.column == 0) then
      skipBlanks block keyAllowed false (m.after c) rest
    else if c == '#' then skipBlanks block keyAllowed true (m.after c) rest
    else (m, c :: rest, keyAllowed)

/-- The reader at the next token. -/
def toToken (st : TokenReader) : TokenReader :=
  let (mark, rest, keyAllowed) := skipBlanks (st.flow == 0) st.keyAllowed false st.mark st.rest
  { st with mark, rest, keyAllowed }

/-! ## Keys -/

/-- Whether a key that began at a place cannot be one any more. -/
def isStale (m : Mark) (k : KeyStart) : Bool :=
  k.mark.line < m.line || k.mark.index + keyLimit < m.index

/-- Gives up the places where the key would be too long by now.  None of them may be required. -/
def dropStale? (st : TokenReader) : Option TokenReader :=
  if st.keys.any (·.any fun k => isStale st.mark k && k.required) then none
  else some { st with keys := st.keys.map (·.filter (!isStale st.mark ·)) }

/-- Gives up the place on the innermost level, which must not be required. -/
def dropKey? (st : TokenReader) : Option TokenReader :=
  match st.keys with
  | some k :: outer => if k.required then none else some { st with keys := none :: outer }
  | _ => some st

/-- Keeps the place as one where a key may begin, if one may. -/
def saveKey? (st : TokenReader) : Option TokenReader :=
  if st.keyAllowed then
    let key : KeyStart :=
      { required := st.flow == 0 && st.indent == st.mark.column, position := st.tokens.length,
        mark := st.mark }
    (dropKey? st).map fun st => { st with keys := some key :: st.keys.drop 1 }
  else some st

/-! ## Indentation -/

/-- Opens a block collection at a column if that is to the right of the innermost one, by a token
    that `put` adds. -/
def openBlock (st : TokenReader) (column : Nat) (put : TokenReader → TokenReader) : TokenReader :=
  if st.flow == 0 && st.indent < column then
    put { st with indent := column, indents := st.indent :: st.indents }
  else st

/-- Ends the block collections to the right of a column; the columns are those of the innermost one
    and of the ones around it. -/
def closeBlocks (column : Int) (tokens : List Token) (indent : Int) :
    List Int → Int × List Int × List Token
  | [] => if column < indent then (-1, [], .blockEnd :: tokens) else (indent, [], tokens)
  | outer :: indents =>
    if column < indent then closeBlocks column (.blockEnd :: tokens) outer indents
    else (indent, outer :: indents, tokens)

/-- Ends the block collections to the right of a column. -/
def unindent (st : TokenReader) (column : Int) : TokenReader :=
  if st.flow == 0 then
    let (indent, indents, tokens) := closeBlocks column st.tokens st.indent st.indents
    { st with indent, indents, tokens }
  else st

/-! ## Tokens -/

/-- The end of the text. -/
def takeEnd? (st : TokenReader) : Option TokenReader := dropKey? (st.unindent (-1))

/-- Ends everything that a directive or a sign between documents ends. -/
def beforeDocument? (st : TokenReader) : Option TokenReader :=
  (dropKey? (st.unindent (-1))).map fun st => { st with keyAllowed := false }

/-- A directive. -/
def takeDirective? (st : TokenReader) : Option TokenReader := do
  let st ← beforeDocument? st
  let r ← readDirective? st.pass.mark st.pass.rest
  some ((st.goto r).emit r.value)

/-- A sign that bounds documents. -/
def takeDocumentSign? (st : TokenReader) (t : Token) : Option TokenReader :=
  (beforeDocument? st).map fun st => st.pass.pass.pass.emit t

/-- The start of a flow collection. -/
def takeFlowStart? (st : TokenReader) (t : Token) : Option TokenReader :=
  (saveKey? st).map fun st =>
    { st with keys := none :: st.keys, flow := st.flow + 1, keyAllowed := true }.pass.emit t

/-- The end of a flow collection. -/
def takeFlowEnd? (st : TokenReader) (t : Token) : Option TokenReader :=
  (dropKey? st).map fun st =>
    let st := if st.flow = 0 then st else { st with keys := st.keys.drop 1, flow := st.flow - 1 }
    { st with keyAllowed := false }.pass.emit t

/-- A comma in a flow collection. -/
def takeFlowEntry? (st : TokenReader) : Option TokenReader :=
  (dropKey? st).map fun st => { st with keyAllowed := true }.pass.emit .flowEntry

/-- A hyphen before an item of a block sequence. -/
def takeBlockEntry? (st : TokenReader) : Option TokenReader :=
  if st.flow == 0 && !st.keyAllowed then none
  else
    (dropKey? (st.openBlock st.mark.column (·.emit .blockSequenceStart))).map fun st =>
      { st with keyAllowed := true }.pass.emit .blockEntry

/-- A question mark before a key. -/
def takeKey? (st : TokenReader) : Option TokenReader :=
  if st.flow == 0 && !st.keyAllowed then none
  else
    (dropKey? (st.openBlock st.mark.column (·.emit .blockMappingStart))).map fun st =>
      { st with keyAllowed := st.flow == 0 }.pass.emit .key

/-- A colon before a value.  If a key may have begun before it, then one has. -/
def takeValue? (st : TokenReader) : Option TokenReader :=
  match st.keys with
  | some k :: outer =>
    -- The key comes first: the start of a mapping is put in before it, at the same place.
    let st := (st.emitAt k.position .key).openBlock k.mark.column
      (·.emitAt k.position .blockMappingStart)
    some ({ st with keys := none :: outer, keyAllowed := false }.pass.emit .value)
  | _ =>
    if st.flow == 0 && !st.keyAllowed then none
    else
      let st := st.openBlock st.mark.column (·.emit .blockMappingStart)
      some ({ st with keyAllowed := st.flow == 0 }.pass.emit .value)

/-- An anchor or an alias. -/
def takeAnchor? (st : TokenReader) (token : String → Token) : Option TokenReader := do
  let st ← saveKey? st
  let r ← readAnchorName? st.pass.mark st.pass.rest
  some ({ st.goto r with keyAllowed := false }.emit (token r.value))

/-- A tag. -/
def takeTag? (st : TokenReader) : Option TokenReader := do
  let st ← saveKey? st
  let r ← readTag? (st.flow != 0) st.mark st.rest
  some ({ st.goto r with keyAllowed := false }.emit r.value)

/-- A block of lines. -/
def takeBlock? (st : TokenReader) (literal : Bool) : Option TokenReader := do
  let st ← dropKey? st
  let r ← readBlock? literal st.indent st.pass.mark st.pass.rest
  some ({ st.goto r with keyAllowed := true }.emit (.scalar (String.ofList r.value) false))

/-- A quoted scalar. -/
def takeQuoted? (st : TokenReader) (double : Bool) : Option TokenReader := do
  let st ← saveKey? st
  let r ← readQuoted? double st.pass.mark st.pass.rest
  some ({ st.goto r with keyAllowed := false }.emit (.scalar (String.ofList r.value) false))

/-- A plain scalar.  A key may begin after it if it was followed by a line break. -/
def takePlain? (st : TokenReader) : Option TokenReader := do
  let st ← saveKey? st
  let r ← readPlain? (st.flow != 0) (st.indent + 1) st.mark st.rest
  some ({ st.goto r with keyAllowed := r.value.2 }.emit
    (.scalar (String.ofList r.value.1) true))

/-- Whether a plain scalar may begin with a character, which is followed by a given text. -/
def beginsPlain (flow : Bool) (c : Char) (rest : List Char) : Bool :=
  if c == '-' then !endsWord rest
  else if c == '?' || c == ':' then !flow && !endsWord rest
  else
    !(isBlank c || isBreak c || c ∈ ",[]\x7b\x7d#&*!|>'\"%@\x60".toList)

/-- The token that begins with a character. -/
def takeAt? (st : TokenReader) (c : Char) (rest : List Char) : Option TokenReader :=
  let flow := st.flow != 0
  -- What is only meant at the start of a line comes first.
  if st.mark.column == 0 && c == '%' then takeDirective? st
  else if atDocumentSign st.mark (c :: rest) then
    takeDocumentSign? st (if c == '-' then .documentStart else .documentEnd)
  -- The signs of flow collections mean the same everywhere.
  else if c == '[' then takeFlowStart? st .flowSequenceStart
  else if c == '\x7b' then takeFlowStart? st .flowMappingStart
  else if c == ']' then takeFlowEnd? st .flowSequenceEnd
  else if c == '\x7d' then takeFlowEnd? st .flowMappingEnd
  else if c == ',' then takeFlowEntry? st
  -- These three are part of a plain scalar unless a word ends after them.
  else if c == '-' && endsWord rest then takeBlockEntry? st
  else if c == '?' && (flow || endsWord rest) then takeKey? st
  else if c == ':' && (flow || endsWord rest) then takeValue? st
  else if c == '*' then takeAnchor? st .alias
  else if c == '&' then takeAnchor? st .anchor
  else if c == '!' then takeTag? st
  else if c == '|' && !flow then takeBlock? st true
  else if c == '>' && !flow then takeBlock? st false
  else if c == '\'' then takeQuoted? st false
  else if c == '"' then takeQuoted? st true
  else if beginsPlain flow c rest then takePlain? st
  else none

/-- The reader after the next token, and whether the text is at its end. -/
def next? (st : TokenReader) : Option (TokenReader × Bool) := do
  -- A key that has become impossible is given up before the indentation is looked at.
  let st ← dropStale? st.toToken
  let st := st.unindent st.mark.column
  match st.rest with
  | [] => (takeEnd? st).map (·, true)
  | c :: rest => (takeAt? st c rest).map (·, false)

/-- Reads tokens to the end of the text.  `fuel` bounds their number. -/
def run? : Nat → TokenReader → Option TokenReader
  | 0, _ => none
  | fuel + 1, st =>
    match next? st with
    | none => none
    | some (st, true) => some st
    | some (st, false) => run? fuel st

end TokenReader

/-- The tokens of a text.  Every token takes one character at least, so the length of the text
    bounds their number. -/
def Token.ofText? (text : String) : Option (List Token) :=
  if text.toList.all isPermitted then
    let s := unifyBreaks text.toList
    (TokenReader.run? (s.length + 1) (.start s)).map (·.tokens.reverse)
  else none

end TokenAtlas.Yaml
