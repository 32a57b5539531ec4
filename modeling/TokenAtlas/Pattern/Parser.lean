import TokenAtlas.Pattern.Escape

/-!
# Reading patterns

`Pattern.read?` reads a regular expression.  The reader goes from left to right and keeps the flags
that are in force, so the tree that it builds needs none.  Look-around, references to groups, and
empty matches of nothing to repeat are no patterns.

Beside the tree stands how deep its parts nest.  Whether a pattern is too deep or too large is asked
only when all of it has been read.

Both readers, of classes and of whole patterns, take one character at least in every round.  Their
first argument bounds the rounds; the length of the text is always enough.
-/

namespace TokenAtlas.Pattern

/-! ## Classes in brackets -/

/-- The ways to combine two classes in brackets. -/
inductive SetOp
  | intersection
  | difference
  | symmetricDifference
  deriving DecidableEq, Repr

/-- The combination of two classes.  Without regard to case both are closed under case first. -/
def SetOp.apply (f : Flags) (op : SetOp) (s t : CharSet) : CharSet :=
  let close (s : CharSet) := if f.ignoreCase then s.closeUnderCase f.unicode else s
  match op with
  | .intersection => (close s).inter (close t)
  | .difference => (close s).diff (close t)
  | .symmetricDifference => (close s).symmDiff (close t)

/-- A part of a class: its characters and how deep its parts nest. -/
structure ClassPart where
  set : CharSet
  nest : Nat

/-- What was read of a class so far. -/
structure ClassState where
  /-- Whether the class is negated. -/
  negated : Bool
  /-- What stands before the last operator, with that operator. -/
  pending : Option (ClassPart × SetOp) := none
  /-- The characters that were listed after the last operator. -/
  union : CharSet := .empty
  /-- How many items were listed there. -/
  count : Nat := 0
  /-- How deep these items nest. -/
  nest : Nat := 0

namespace ClassState

/-- Takes up an item. -/
def push (st : ClassState) (s : CharSet) (nest : Nat) : ClassState :=
  { st with union := st.union.union s, count := st.count + 1, nest := max st.nest nest }

/-- The part that the operators make of what was read so far. -/
def part (f : Flags) (st : ClassState) : ClassPart :=
  -- A single item is no list and does not add a level.
  let listed : ClassPart := ⟨st.union, if st.count ≤ 1 then st.nest else st.nest + 1⟩
  match st.pending with
  | none => listed
  | some (before, op) => ⟨op.apply f before.set listed.set, max before.nest listed.nest + 1⟩

/-- Goes on after an operator. -/
def operate (f : Flags) (st : ClassState) (op : SetOp) : ClassState :=
  { negated := st.negated, pending := some (st.part f, op) }

end ClassState

/-- The class of one character that is listed.  Outside of ASCII this needs the flag for all
    scripts. -/
def literalSet? (f : Flags) (c : Char) : Option CharSet :=
  if f.unicode || c.toNat < 0x80 then some (.singleton c) else none

/-- The character of an atom that may be an end of a range. -/
def rangeEnd? (f : Flags) : Atom → Option Char
  | .literal c _ => if f.unicode || c.toNat < 0x80 then some c else none
  | _ => none

/-- The characters of an atom that is listed alone. -/
def listedSet? (f : Flags) : Atom → Option CharSet
  | .literal c _ => literalSet? f c
  | .set s => some s
  | .anchor _ => none

/-- Reads a character or an escape in a class. -/
def readClassAtom? (f : Flags) : List Char → Option (Atom × List Char)
  | [] => none
  | '\\' :: rest => Atom.readEscape? f rest
  | c :: rest => some (.literal c false, rest)

/-- Reads a character, an escape or a range in a class. -/
def readClassItem? (f : Flags) (s : List Char) : Option (CharSet × List Char) := do
  let (first, rest) ← readClassAtom? f s
  match skip f rest with
  | [] => none
  | '-' :: after =>
    match skip f after with
    | [] => none
    | c :: more =>
      -- The hyphen stands at the end, or begins an operator.
      if c = ']' || c = '-' then
        let s ← listedSet? f first
        some (s, '-' :: after)
      else
        let (second, rest) ← readClassAtom? f (c :: more)
        let low ← rangeEnd? f first
        let high ← rangeEnd? f second
        if low ≤ high then some (.range low high, rest) else none
  | rest =>
    let s ← listedSet? f first
    some (s, rest)

/-- Reads the name of a class of ASCII characters after its opening bracket and colon. -/
def readNamedClass? (f : Flags) (s : List Char) : Option (Option CharSet × List Char) :=
  let (negated, s) := match s with
    | '^' :: rest => (true, rest)
    | s => (false, s)
  let name := s.takeWhile (· != ':')
  match s.drop name.length with
  | ':' :: ']' :: rest =>
    (CharSet.named? (String.ofList name)).map fun cs => (Atom.finishSet? f negated cs, rest)
  | _ => none

/-- Takes up hyphens at the start of a class; they stand for themselves. -/
def readHyphens (f : Flags) (st : ClassState) : Nat → List Char → ClassState × List Char
  | 0, s => (st, s)
  | fuel + 1, s =>
    match s with
    | '-' :: rest => readHyphens f (st.push (.singleton '-') 0) fuel (skip f rest)
    | s => (st, s)

/-- Reads the start of a class after its bracket: a negation, hyphens, and a closing bracket that
    stands for itself because the class would be empty. -/
def readClassStart (f : Flags) (s : List Char) : ClassState × List Char :=
  let (negated, s) := match skip f s with
    | '^' :: rest => (true, skip f rest)
    | s => (false, s)
  let (st, s) := readHyphens f { negated } s.length s
  match s with
  | ']' :: rest => if st.count = 0 then (st.push (.singleton ']') 0, skip f rest) else (st, s)
  | s => (st, s)

mutual

/-- Reads a class after its opening bracket. -/
def readClass? (f : Flags) : Nat → List Char → Option (ClassPart × List Char)
  | 0, _ => none
  | fuel + 1, s =>
    let (st, s) := readClassStart f s
    match readClassItems? f fuel st s with
    | none => none
    | some (st, rest) =>
      let part := st.part f
      (Atom.finishSet? f st.negated part.set).map fun cs => (⟨cs, part.nest + 1⟩, rest)

/-- Reads the items of a class up to its closing bracket. -/
def readClassItems? (f : Flags) : Nat → ClassState → List Char → Option (ClassState × List Char)
  | 0, _, _ => none
  | fuel + 1, st, s =>
    match skip f s with
    | [] => none
    | ']' :: rest => some (st, rest)
    | '[' :: rest =>
      -- What is no named class after all is read as a class of its own.
      let named := match rest with
        | ':' :: rest => readNamedClass? f rest
        | _ => none
      match named with
      | some (none, _) => none
      | some (some cs, rest) => readClassItems? f fuel (st.push cs 0) rest
      | none =>
        match readClass? f fuel rest with
        | none => none
        | some (part, rest) => readClassItems? f fuel (st.push part.set part.nest) rest
    | '&' :: '&' :: rest => readClassItems? f fuel (st.operate f .intersection) rest
    | '-' :: '-' :: rest => readClassItems? f fuel (st.operate f .difference) rest
    | '~' :: '~' :: rest => readClassItems? f fuel (st.operate f .symmetricDifference) rest
    | s =>
      match readClassItem? f s with
      | none => none
      | some (cs, rest) => readClassItems? f fuel (st.push cs 0) rest

end

/-! ## Whole patterns -/

/-- A part of a pattern, and how deep its parts nest. -/
structure Piece where
  pattern : Pattern
  nest : Nat

/-- An item of a sequence: a piece, or a directive that sets flags. -/
inductive Item
  | piece (p : Piece)
  | directive

/-- The piece of an item; a directive matches the empty span. -/
def Item.toPiece : Item → Piece
  | .piece p => p
  | .directive => ⟨.empty, 0⟩

/-- The greatest depth of some pieces. -/
def maxNestOf (ps : List Piece) : Nat := ps.foldl (fun n p => max n p.nest) 0

/-- The piece for a sequence of items, the last of which comes first. -/
def sequencePiece (items : List Item) : Piece :=
  match items.reverse.map Item.toPiece with
  | [p] => p
  | ps => ⟨concat (ps.map (·.pattern)), if ps.isEmpty then 0 else maxNestOf ps + 1⟩

/-- The piece for branches, the last of which comes first. -/
def branchesPiece (branches : List Piece) : Piece :=
  match branches.reverse with
  | [p] => p
  | ps => ⟨alternation (ps.map (·.pattern)), if ps.isEmpty then 0 else maxNestOf ps + 1⟩

/-- The pattern of a literal.  A letter whose case is ignored is a class. -/
def literalPattern (f : Flags) (c : Char) : Pattern :=
  if f.ignoreCase && (f.unicode || c.toNat < 0x80) then
    .set ((CharSet.singleton c).closeUnderCase f.unicode)
  else .char c

/-- The pattern of an atom.  A byte beyond ASCII is no character. -/
def Atom.toPattern? (f : Flags) : Atom → Option Pattern
  | .literal c byte =>
    if byte && !f.unicode && 0x7F < c.toNat then none else some (literalPattern f c)
  | .set s => some (.set s)
  | .anchor a => some (.anchor a)

/-- The pattern of a dot. -/
def dotPattern? (f : Flags) : Option Pattern :=
  if !f.unicode then none
  else if f.dotAll then some (.set .any)
  else if f.crlf then some (.set ((CharSet.singleton '\n').union (.singleton '\r')).complement)
  else some (.set (CharSet.singleton '\n').complement)

/-- The anchor of a circumflex. -/
def startAnchor (f : Flags) : Anchor := if f.multiLine then .lineStart f.crlf else .textStart

/-- The anchor of a dollar sign. -/
def endAnchor (f : Flags) : Anchor := if f.multiLine then .lineEnd f.crlf else .textEnd

/-- Repeats the last item of a sequence.  There must be one, and not a directive. -/
def repeatLast? (min : Nat) (max : Option Nat) : List Item → Option (List Item)
  | .piece p :: items => some (.piece ⟨.repetition p.pattern min max, p.nest + 1⟩ :: items)
  | _ => none

/-- Passes over the question mark of a lazy repetition. -/
def skipLazy : List Char → List Char
  | '?' :: rest => rest
  | s => s

/-- The digits that a text begins with; the flags may allow blanks between them. -/
def readCountDigits (f : Flags) : Nat → List Char → List Nat × List Char
  | 0, s => ([], s)
  | fuel + 1, s =>
    match s with
    | [] => ([], [])
    | c :: rest =>
      if c.isDigit then
        let (ds, rest) := readCountDigits f fuel (skip f rest)
        ((c.toNat - '0'.toNat) :: ds, rest)
      else ([], c :: rest)

/-- Reads a count of a repetition, with blanks around it.  It must fit into 32 bits. -/
def readCount? (f : Flags) (s : List Char) : Option (Nat × List Char) :=
  let s := s.dropWhile isBlank
  match readCountDigits f s.length s with
  | ([], _) => none
  | (ds, rest) =>
    let n := ds.foldl (fun n d => n * 10 + d) 0
    if n < UInt32.size then some (n, skip f (rest.dropWhile isBlank)) else none

/-- Reads the counts of a repetition after the opening brace, and the closing brace. -/
def readCounts? (f : Flags) (s : List Char) : Option ((Nat × Option Nat) × List Char) := do
  let (min, rest) ← readCount? f (skip f s)
  match rest with
  | '\x7d' :: rest => some ((min, some min), rest)
  | ',' :: rest =>
    match skip f rest with
    | '\x7d' :: rest => some ((min, none), rest)
    | rest =>
      let (max, rest) ← readCount? f rest
      match rest with
      | '\x7d' :: rest => if min ≤ max then some ((min, some max), rest) else none
      | _ => none
  | _ => none

/-- Whether a character may stand in the name of a group. -/
def isNameChar (first : Bool) (c : Char) : Bool :=
  if first then c == '_' || Unicode.alphabetic.contains c
  else c == '_' || c == '.' || c == '[' || c == ']' || Unicode.alphanumeric.contains c

/-- Reads the name of a group and the bracket that closes it. -/
def readGroupName? (first : Bool) : List Char → Option (List Char × List Char)
  | [] => none
  | c :: rest =>
    if c = '>' then if first then none else some ([], rest)
    else if isNameChar first c then
      (readGroupName? false rest).map fun (cs, rest) => (c :: cs, rest)
    else none

/-- What the start of a group says. -/
inductive GroupStart
  /-- A group with a number, and perhaps with a name. -/
  | numbered (name : Option (List Char))
  /-- A group for flags only. -/
  | flagged (changes : FlagChanges)
  /-- No group but a directive that sets flags. -/
  | directive (changes : FlagChanges)

/-- Reads the start of a group after its parenthesis. -/
def readGroupStart? (f : Flags) (s : List Char) : Option (GroupStart × List Char) :=
  match skip f s with
  | '?' :: '=' :: _ => none
  | '?' :: '!' :: _ => none
  | '?' :: '<' :: '=' :: _ => none
  | '?' :: '<' :: '!' :: _ => none
  | '?' :: 'P' :: '<' :: rest =>
    (readGroupName? true rest).map fun (name, rest) => (.numbered (some name), rest)
  | '?' :: '<' :: rest =>
    (readGroupName? true rest).map fun (name, rest) => (.numbered (some name), rest)
  | '?' :: rest =>
    match readFlags [] false false rest with
    | none => none
    | some (changes, close, rest) =>
      if close = ':' then some (.flagged changes, rest)
      else if changes.isEmpty then none
      else some (.directive changes, rest)
  | s => some (.numbered none, s)

/-- Takes up the name of a group, which must not have been used before. -/
def useName? (names : List (List Char)) : Option (List Char) → Option (List (List Char))
  | none => some names
  | some name => if names.contains name then none else some (name :: names)

/-- What the reader of a pattern knows of the part that it is in. -/
structure Progress where
  /-- The flags in force. -/
  flags : Flags
  /-- The names of groups that were used so far. -/
  names : List (List Char)
  /-- The branches that are complete, the last one first. -/
  branches : List Piece := []
  /-- The items of the branch that is being read, the last one first. -/
  items : List Item := []

namespace Progress

/-- Takes up an item. -/
def push (st : Progress) (p : Piece) : Progress := { st with items := .piece p :: st.items }

/-- Takes up a pattern without parts. -/
def pushLeaf (st : Progress) (p : Pattern) : Progress := st.push ⟨p, 0⟩

/-- Begins a new branch. -/
def branch (st : Progress) : Progress :=
  { st with branches := sequencePiece st.items :: st.branches, items := [] }

/-- The piece for everything that was read. -/
def finish (st : Progress) : Piece := branchesPiece (sequencePiece st.items :: st.branches)

/-- Repeats the last item. -/
def repeatLast? (st : Progress) (min : Nat) (max : Option Nat) : Option Progress :=
  (Pattern.repeatLast? min max st.items).map fun items => { st with items }

end Progress

/-- Reads one of the parts that are not groups: a class, a repetition of the last item, an anchor, a
    dot, an escape or a literal. -/
def readPart? (st : Progress) : List Char → Option (Progress × List Char)
  | [] => none
  | c :: rest =>
    let f := st.flags
    match c with
    | '[' => do
      let (part, rest) ← readClass? f (rest.length + 1) rest
      some (st.push ⟨.set part.set, part.nest⟩, rest)
    -- A lazy repetition matches the same spans, so its mark says nothing here.
    | '?' => (st.repeatLast? 0 (some 1)).map (·, skipLazy rest)
    | '*' => (st.repeatLast? 0 none).map (·, skipLazy rest)
    | '+' => (st.repeatLast? 1 none).map (·, skipLazy rest)
    | '\x7b' => do
      let ((min, max), rest) ← readCounts? f rest
      let st ← st.repeatLast? min max
      some (st, skipLazy (skip f rest))
    | '^' => some (st.pushLeaf (.anchor (startAnchor f)), rest)
    | '$' => some (st.pushLeaf (.anchor (endAnchor f)), rest)
    | '.' => do
      let p ← dotPattern? f
      some (st.pushLeaf p, rest)
    | '\\' => do
      let (atom, rest) ← Atom.readEscape? f rest
      let p ← atom.toPattern? f
      some (st.pushLeaf p, rest)
    | c => some (st.pushLeaf (literalPattern f c), rest)

/-- Reads the parts of a pattern up to its end or to a closing parenthesis, which is left. -/
def readParts? : Nat → Progress → List Char → Option (Progress × List Char)
  | 0, _, _ => none
  | fuel + 1, st, s =>
    match skip st.flags s with
    | [] => some (st, [])
    | ')' :: rest => some (st, ')' :: rest)
    | '|' :: rest => readParts? fuel st.branch rest
    | '(' :: rest =>
      match readGroupStart? st.flags rest with
      | none => none
      -- A directive holds up to the end of the group that it stands in.
      | some (.directive changes, rest) =>
        readParts? fuel
          { st with flags := st.flags.apply changes, items := .directive :: st.items } rest
      | some (.flagged changes, rest) =>
        -- The flags of a group end with it, but the names that it uses do not.
        match readParts? fuel { flags := st.flags.apply changes, names := st.names } rest with
        | some (inner, ')' :: rest) =>
          let body := inner.finish
          readParts? fuel { st.push ⟨body.pattern, body.nest + 1⟩ with names := inner.names } rest
        | _ => none
      | some (.numbered name, rest) =>
        match useName? st.names name with
        | none => none
        | some names =>
          match readParts? fuel { flags := st.flags, names } rest with
          | some (inner, ')' :: rest) =>
            let body := inner.finish
            readParts? fuel
              { st.push ⟨.group body.pattern, body.nest + 1⟩ with names := inner.names } rest
          | _ => none
    | s =>
      match readPart? st s with
      | none => none
      | some (st, rest) => readParts? fuel st rest

/-- Reads a pattern, without regard to its depth and its size. -/
def read? (text : String) : Option Piece :=
  let s := text.toList
  match readParts? (s.length + 1) { flags := {}, names := [] } s with
  | some (st, []) => some st.finish
  | _ => none

end TokenAtlas.Pattern
