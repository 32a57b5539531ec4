import TokenAtlas.Yaml.Resolve

/-!
# From nodes to contents

`expand` gives the content of a node: every alias in it is replaced by the content of its target,
and every scalar by what it stands for.

Two limits keep the result small.  Collections nest to a depth of `maxDepth`, where an alias counts
as its target, so that a node inside itself has no content.  And the number of aliases that are
followed in a document is limited by `aliasLimit`.
-/

namespace TokenAtlas.Yaml

/-- How deep collections may nest. -/
def maxDepth : Nat := 128

/-- How many aliases may be followed in a document. -/
def aliasLimit (root : Node) : Nat := root.events * 100

/-- The nodes that aliases stand for, under the numbers of their anchors. -/
structure Targets where
  /-- The nodes with anchors, the last of the document first. -/
  nodes : List (Nat × Node)

namespace Targets

/-- The targets of the aliases in a document. -/
def ofRoot (root : Node) : Targets := ⟨root.anchored.reverse⟩

/-- The last node that a number was given to. -/
def get? (ts : Targets) (number : Nat) : Option Node := ts.nodes.lookup number

end Targets

/-- A reading that may fail.  Its state is the number of aliases that may still be followed. -/
abbrev Following := StateT Nat Option

/-- The result of a reading of a whole document. -/
def Following.result? {α : Type} (reading : Following α) (root : Node) : Option α :=
  (reading.run (aliasLimit root)).map (·.1)

/-- The node that a node stands for: the target of an alias, and itself otherwise. -/
def follow (ts : Targets) : Node → Following Node
  | .alias number => do
    match ← get with
    | 0 => failure
    | left + 1 =>
      set left
      ts.get? number
  | node => pure node

/-- The text of a scalar, whatever it stands for. -/
def scalarText (ts : Targets) (node : Node) : Following String := do
  match ← follow ts node with
  | .scalar _ _ text _ => pure text
  | _ => failure

/-- How the keys of mappings are read. -/
inductive KeyReading
  /-- A key is a scalar and taken as its text. -/
  | asText
  /-- A key is a node like any other. -/
  | asContent
  deriving DecidableEq, Repr

/-- The content of a node in which collections nest at most to the given depth. -/
def expand (ts : Targets) (keys : KeyReading) (depth : Nat) (node : Node) : Following Content := do
  match ← follow ts node with
  | .scalar _ tag text plain => scalarContent? tag text plain
  | .sequence _ tag items =>
    -- Even an empty collection needs a level of its own.
    match depth with
    | 0 => failure
    | depth + 1 =>
      if isLocalTag tag then failure
      else return .list (← items.mapM (expand ts keys depth))
  | .mapping _ tag members =>
    match depth with
    | 0 => failure
    | depth + 1 =>
      if isLocalTag tag then failure
      else return .mapping (← members.mapM fun (key, value) => do
        -- Keys count as one level deeper than the mapping, as values do.
        let key ← match keys with
          | .asText => Content.text <$> scalarText ts key
          | .asContent => expand ts keys depth key
        return (key, ← expand ts keys depth value))
  | .alias _ => failure

/-- The members of a mapping whose keys are scalars and whose values have contents. -/
def expandMembers (ts : Targets) (depth : Nat) (members : List (Node × Node)) :
    Following (List (Content × Content)) :=
  members.mapM fun (key, value) => do
    let name ← scalarText ts key
    return (.text name, ← expand ts .asText depth value)

/-- The block that a document stands for.  Its root is a mapping, whatever its tag, or nothing is
    written there. -/
def block? : Option Node → Option Block
  | none => some Fields.empty
  | some root =>
    match root with
    | .mapping _ _ members =>
      ((expandMembers (.ofRoot root) (maxDepth - 1) members).result? root).bind fun members =>
        (Content.mapping members).toBlock?
    | .scalar _ _ "" true => some Fields.empty
    | _ => none

end TokenAtlas.Yaml
