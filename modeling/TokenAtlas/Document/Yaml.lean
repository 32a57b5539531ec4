import TokenAtlas.Definition
import TokenAtlas.Yaml.Expansion

/-!
# Documents in YAML

A document is a mapping with one member `maps`, and others that do not count and are not looked
into.  Its value is a sequence, or nothing is written there.  This module finds the contents of its
items.

The word for the kind of a map is the text of a scalar, whatever the scalar stands for.
-/

namespace TokenAtlas.Document

open Yaml

/-- How deep collections may nest in the members of an item: the document, the sequence and the item
    are around them. -/
def partDepth : Nat := Yaml.maxDepth - 3

/-- The content of a member of an item. -/
def expandYamlMember (ts : Targets) (member : Node × Node) : Following (Content × Content) := do
  let key ← expand ts .asContent partDepth member.1
  if Definition.isKindKey key then return (key, .text (← scalarText ts member.2))
  else return (key, ← expand ts .asContent partDepth member.2)

/-- The content of an item. -/
def expandYamlItem (ts : Targets) (node : Node) : Following Content := do
  match ← follow ts node with
  | .sequence _ tag (kind :: items) =>
    if isLocalTag tag then failure
    let kind ← scalarText ts kind
    return .list (.text kind :: (← items.mapM (expand ts .asContent partDepth)))
  | .mapping _ tag members =>
    if isLocalTag tag then failure
    return .mapping (← members.mapM (expandYamlMember ts))
  | _ => failure

/-- The values of the member `maps` of a document. -/
def yamlMaps (ts : Targets) : List (Node × Node) → Following (List Node)
  | [] => return []
  | (key, value) :: rest => do
    -- The keys of a document are texts whatever they stand for.
    let name ← scalarText ts key
    let others ← yamlMaps ts rest
    return if name = "maps" then value :: others else others

/-- The contents of the items of a document whose root is known. -/
def expandYaml (root : Node) : Following (List Content) := do
  let ts := Targets.ofRoot root
  match root with
  | .mapping _ _ members =>
    match ← yamlMaps ts members with
    | [maps] =>
      match ← follow ts maps with
      | .sequence _ _ items => items.mapM (expandYamlItem ts)
      | .scalar _ _ "" true => return []
      | _ => failure
    | _ => failure
  | _ => failure

/-- The contents of the items that a document in YAML has for its maps. -/
def yamlItems? (text : String) : Option (List Content) := do
  let root ← (← readDocument? (← Token.ofText? text))
  (expandYaml root).result? root

end TokenAtlas.Document
