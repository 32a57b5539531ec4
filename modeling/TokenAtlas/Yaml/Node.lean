import TokenAtlas.Yaml.TokenReader

/-!
# From tokens to nodes

A `Node` is a scalar, a sequence, a mapping, or an alias of a node that an anchor was set on.
`readDocument?` reads the nodes of a text, which must hold at most one document.

Anchors are numbered.  A new anchor gets the number of different names that were in use before it,
and an alias refers to the number that its name has where the alias stands.  So a name that is used
again may take the number that the next new name gets too; the node that was numbered last counts.

The readers recurse on a bound for their calls; every token is the occasion of a few.
-/

namespace TokenAtlas.Yaml

/-- A node of a document. -/
inductive Node
  /-- A scalar, and whether it is written plain. -/
  | scalar (anchor : Option Nat) (tag : Option String) (text : String) (plain : Bool)
  | sequence (anchor : Option Nat) (tag : Option String) (items : List Node)
  | mapping (anchor : Option Nat) (tag : Option String) (members : List (Node × Node))
  /-- The node with the number of an anchor. -/
  | alias (target : Nat)
  deriving Inhabited

namespace Node

/-- The node that stands where nothing is written. -/
def absent : Node := .scalar none none "" true

mutual

/-- The nodes with anchors in a node, in the order of their anchors in the text. -/
def anchored : Node → List (Nat × Node)
  | .scalar a t s p => a.toList.map (·, .scalar a t s p)
  | .sequence a t items => a.toList.map (·, .sequence a t items) ++ anchoredItems items
  | .mapping a t members => a.toList.map (·, .mapping a t members) ++ anchoredMembers members
  | .alias _ => []

/-- The nodes with anchors in the items of a sequence. -/
def anchoredItems : List Node → List (Nat × Node)
  | [] => []
  | n :: rest => anchored n ++ anchoredItems rest

/-- The nodes with anchors in the members of a mapping. -/
def anchoredMembers : List (Node × Node) → List (Nat × Node)
  | [] => []
  | (key, value) :: rest => anchored key ++ anchored value ++ anchoredMembers rest

end

mutual

/-- The number of signs that it takes to list a node: one for a scalar or an alias, and two for a
    collection beside those of its parts. -/
def events : Node → Nat
  | .scalar _ _ _ _ => 1
  | .sequence _ _ items => eventsOfItems items + 2
  | .mapping _ _ members => eventsOfMembers members + 2
  | .alias _ => 1

/-- The number of signs for the items of a sequence. -/
def eventsOfItems : List Node → Nat
  | [] => 0
  | n :: rest => events n + eventsOfItems rest

/-- The number of signs for the members of a mapping. -/
def eventsOfMembers : List (Node × Node) → Nat
  | [] => 0
  | (key, value) :: rest => events key + events value + eventsOfMembers rest

end

end Node

/-- The names of anchors with their numbers, and the handles of tags with their meanings. -/
structure Names where
  anchors : List (String × Nat) := []
  handles : List (String × String) := []

namespace Names

/-- The handles that every document knows. -/
def defaultHandles : List (String × String) := [("!", "!"), ("!!", "tag:yaml.org,2002:")]

/-- The number of an anchor. -/
def anchor? (ns : Names) (name : String) : Option Nat := ns.anchors.lookup name

/-- Numbers an anchor. -/
def setAnchor (ns : Names) (name : String) : Nat × Names :=
  let number := ns.anchors.length
  -- A name that is used again does not count twice.
  let others := ns.anchors.filter (·.1 != name)
  (number, { ns with anchors := (name, number) :: others })

/-- The tag that a handle and the rest of a tag stand for. -/
def tag? (ns : Names) (handle rest : String) : Option String :=
  if handle.isEmpty then some rest else (ns.handles.lookup handle).map (· ++ rest)

end Names

/-- What is written before a node: its anchor and its tag. -/
structure Properties where
  anchor : Option Nat := none
  tag : Option String := none

namespace Properties

/-- Whether nothing is written before a node. -/
def isEmpty (p : Properties) : Bool := p.anchor.isNone && p.tag.isNone

/-- Reads an anchor and a tag, of which both may be missing, in either order. -/
def read? (ns : Names) : List Token → Option (Properties × Names × List Token)
  | .anchor name :: .tag handle body :: rest => do
    let tag ← ns.tag? handle body
    let (number, ns) := ns.setAnchor name
    some ({ anchor := some number, tag := some tag }, ns, rest)
  | .tag handle body :: .anchor name :: rest => do
    let tag ← ns.tag? handle body
    let (number, ns) := ns.setAnchor name
    some ({ anchor := some number, tag := some tag }, ns, rest)
  | .anchor name :: rest =>
    let (number, ns) := ns.setAnchor name
    some ({ anchor := some number }, ns, rest)
  | .tag handle body :: rest => do
    let tag ← ns.tag? handle body
    some ({ tag := some tag }, ns, rest)
  | ts => some ({}, ns, ts)

end Properties

/-- What a reader of nodes gives: what was read, the names that are known after it, and the tokens
    that follow. -/
abbrev NodeReading (α : Type) := Option (α × Names × List Token)

namespace Node

/-- Whether an item of a block sequence is missing before a token. -/
def endsBlockItem : List Token → Bool
  | .blockEntry :: _ | .blockEnd :: _ => true
  | _ => false

/-- Whether an item of a sequence without indentation is missing before a token. -/
def endsPlainItem : List Token → Bool
  | .blockEntry :: _ | .key :: _ | .value :: _ | .blockEnd :: _ => true
  | _ => false

/-- Whether a part of a member of a block mapping is missing before a token. -/
def endsBlockPart : List Token → Bool
  | .key :: _ | .value :: _ | .blockEnd :: _ => true
  | _ => false

/-- Whether a key in a flow mapping is missing before a token. -/
def endsFlowKey : List Token → Bool
  | .value :: _ | .flowEntry :: _ | .flowMappingEnd :: _ => true
  | _ => false

/-- Whether a value in a flow mapping is missing before a token. -/
def endsFlowValue : List Token → Bool
  | .flowEntry :: _ | .flowMappingEnd :: _ => true
  | _ => false

/-- Whether a key of a single member in a flow sequence is missing before a token. -/
def endsPairKey : List Token → Bool
  | .value :: _ | .flowEntry :: _ | .flowSequenceEnd :: _ => true
  | _ => false

/-- Whether a value of a single member in a flow sequence is missing before a token. -/
def endsPairValue : List Token → Bool
  | .flowEntry :: _ | .flowSequenceEnd :: _ => true
  | _ => false

mutual

/-- Reads a node.  `block` allows block collections, and `plain` allows a block sequence without
    indentation. -/
def read? : Nat → Bool → Bool → Names → List Token → NodeReading Node
  | 0, _, _, _, _ => none
  | fuel + 1, block, plain, ns, ts =>
    match ts with
    | .alias name :: rest => (ns.anchor? name).map (.alias ·, ns, rest)
    | ts =>
      match Properties.read? ns ts with
      | none => none
      | some (p, ns, ts) =>
        match ts with
        | .scalar text isPlain :: rest =>
          some (.scalar p.anchor p.tag text isPlain, ns, rest)
        | .flowSequenceStart :: rest =>
          (readFlowSequence? fuel true ns rest).map fun (items, r) =>
            (.sequence p.anchor p.tag items, r)
        | .flowMappingStart :: rest =>
          (readFlowMapping? fuel true ns rest).map fun (members, r) =>
            (.mapping p.anchor p.tag members, r)
        | .blockSequenceStart :: rest =>
          if block then
            (readBlockSequence? fuel ns rest).map fun (items, r) =>
              (.sequence p.anchor p.tag items, r)
          else if p.isEmpty then none
          else some (.scalar p.anchor p.tag "" true, ns, ts)
        | .blockMappingStart :: rest =>
          if block then
            (readBlockMapping? fuel ns rest).map fun (members, r) =>
              (.mapping p.anchor p.tag members, r)
          else if p.isEmpty then none
          else some (.scalar p.anchor p.tag "" true, ns, ts)
        -- A hyphen that opens no collection: the sequence is not indented.
        | .blockEntry :: _ =>
          if plain then
            (readPlainSequence? fuel ns ts).map fun (items, r) =>
              (.sequence p.anchor p.tag items, r)
          else if p.isEmpty then none
          else some (.scalar p.anchor p.tag "" true, ns, ts)
        -- Nothing is written after an anchor or a tag.
        | ts => if p.isEmpty then none else some (.scalar p.anchor p.tag "" true, ns, ts)

/-- Reads the items of a block sequence up to its end. -/
def readBlockSequence? : Nat → Names → List Token → NodeReading (List Node)
  | 0, _, _ => none
  | fuel + 1, ns, ts =>
    match ts with
    | .blockEnd :: rest => some ([], ns, rest)
    | .blockEntry :: rest =>
      let item := if endsBlockItem rest then some (absent, ns, rest)
        else read? fuel true false ns rest
      match item with
      | none => none
      | some (n, ns, rest) => (readBlockSequence? fuel ns rest).map fun (ms, r) => (n :: ms, r)
    | _ => none

/-- Reads the items of a block sequence without indentation. -/
def readPlainSequence? : Nat → Names → List Token → NodeReading (List Node)
  | 0, _, _ => none
  | fuel + 1, ns, ts =>
    match ts with
    | .blockEntry :: rest =>
      let item := if endsPlainItem rest then some (absent, ns, rest)
        else read? fuel true false ns rest
      match item with
      | none => none
      | some (n, ns, rest) => (readPlainSequence? fuel ns rest).map fun (ms, r) => (n :: ms, r)
    | ts => some ([], ns, ts)

/-- Reads the members of a block mapping up to its end. -/
def readBlockMapping? : Nat → Names → List Token → NodeReading (List (Node × Node))
  | 0, _, _ => none
  | fuel + 1, ns, ts =>
    match ts with
    | .blockEnd :: rest => some ([], ns, rest)
    | .key :: rest =>
      let key := if endsBlockPart rest then some (absent, ns, rest)
        else read? fuel true true ns rest
      match key with
      | none => none
      | some (k, ns, rest) =>
        -- A key without a colon has an empty value.
        let value := match rest with
          | .value :: rest =>
            if endsBlockPart rest then some (absent, ns, rest) else read? fuel true true ns rest
          | rest => some (absent, ns, rest)
        match value with
        | none => none
        | some (v, ns, rest) =>
          (readBlockMapping? fuel ns rest).map fun (ms, r) => ((k, v) :: ms, r)
    | _ => none

/-- Reads the items of a flow sequence up to its end.  Before every item but the first there must be
    a comma. -/
def readFlowSequence? : Nat → Bool → Names → List Token → NodeReading (List Node)
  | 0, _, _, _ => none
  | fuel + 1, first, ns, ts =>
    match ts with
    | .flowSequenceEnd :: rest => some ([], ns, rest)
    | ts =>
      let ts := if first then some ts else match ts with
        | .flowEntry :: rest => some rest
        | _ => none
      match ts with
      | none => none
      | some (.flowSequenceEnd :: rest) => some ([], ns, rest)
      | some (.key :: rest) =>
        match readPair? fuel ns rest with
        | none => none
        | some (n, ns, rest) =>
          (readFlowSequence? fuel false ns rest).map fun (ms, r) => (n :: ms, r)
      | some ts =>
        match read? fuel false false ns ts with
        | none => none
        | some (n, ns, rest) =>
          (readFlowSequence? fuel false ns rest).map fun (ms, r) => (n :: ms, r)

/-- Reads a member that is an item of a flow sequence, as a mapping of its own.  Where the key is
    missing, the token in its place is passed over. -/
def readPair? : Nat → Names → List Token → NodeReading Node
  | 0, _, _ => none
  | fuel + 1, ns, ts =>
    let key := if endsPairKey ts then some (absent, ns, ts.drop 1) else read? fuel false false ns ts
    match key with
    | none => none
    | some (k, ns, rest) =>
      let value := match rest with
        | .value :: rest =>
          if endsPairValue rest then some (absent, ns, rest) else read? fuel false false ns rest
        | rest => some (absent, ns, rest)
      value.map fun (v, r) => (.mapping none none [(k, v)], r)

/-- Reads the members of a flow mapping up to its end.  Before every member but the first there must
    be a comma. -/
def readFlowMapping? : Nat → Bool → Names → List Token → NodeReading (List (Node × Node))
  | 0, _, _, _ => none
  | fuel + 1, first, ns, ts =>
    match ts with
    | .flowMappingEnd :: rest => some ([], ns, rest)
    | ts =>
      let ts := if first then some ts else match ts with
        | .flowEntry :: rest => some rest
        | _ => none
      match ts with
      | none => none
      | some (.flowMappingEnd :: rest) => some ([], ns, rest)
      | some (.key :: rest) =>
        let key := if endsFlowKey rest then some (absent, ns, rest)
          else read? fuel false false ns rest
        match key with
        | none => none
        | some (k, ns, rest) =>
          let value := match rest with
            | .value :: rest =>
              if endsFlowValue rest then some (absent, ns, rest)
              else read? fuel false false ns rest
            | rest => some (absent, ns, rest)
          match value with
          | none => none
          | some (v, ns, rest) =>
            (readFlowMapping? fuel false ns rest).map fun (ms, r) => ((k, v) :: ms, r)
      | some ts =>
        match read? fuel false false ns ts with
        | none => none
        | some (k, ns, rest) =>
          (readFlowMapping? fuel false ns rest).map fun (ms, r) => ((k, absent) :: ms, r)

end

end Node

/-- Reads the directives before a document. -/
def readDirectives? (version : Bool) (ns : Names) : List Token → Option (Names × List Token)
  | .version major minor :: rest =>
    if version || major != 1 || (minor != 1 && minor != 2) then none
    else readDirectives? true ns rest
  | .tagHandle handle meaning :: rest =>
    if (ns.handles.lookup handle).isSome then none
    else readDirectives? version { ns with handles := ns.handles ++ [(handle, meaning)] } rest
  | ts => some (ns, ts)

/-- Whether nothing is written in a document whose start is before a token. -/
def endsDocument : List Token → Bool
  | [] => true
  | .version _ _ :: _ | .tagHandle _ _ :: _ | .documentStart :: _ | .documentEnd :: _ => true
  | _ => false

/-- Whether nothing but signs for the end of a document follows. -/
def onlyEnds (ts : List Token) : Bool := ts.all (· == .documentEnd)

/-- The bound for the calls of the readers of nodes. -/
def callLimit (ts : List Token) : Nat := 3 * ts.length + 3

/-- The node of the only document of a text, if the text has one at all. -/
def readDocument? (ts : List Token) : Option (Option Node) :=
  match ts with
  | [] => some none
  | ts =>
    match readDirectives? false {} ts with
    | none => none
    | some (ns, rest) =>
      let ns := { ns with handles := ns.handles ++ Names.defaultHandles }
      let body := match rest with
        | .documentStart :: rest =>
          if endsDocument rest then some (Node.absent, ns, rest)
          else Node.read? (callLimit ts) true false ns rest
        | rest =>
          match ts with
          | .version _ _ :: _ | .tagHandle _ _ :: _ => none
          | _ => Node.read? (callLimit ts) true false ns rest
      match body with
      | some (n, _, rest) => if onlyEnds rest then some (some n) else none
      | none => none

end TokenAtlas.Yaml
