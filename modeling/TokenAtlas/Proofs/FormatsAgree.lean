import TokenAtlas.Proofs.EntryExport
import TokenAtlas.Proofs.SingleDefinition
import TokenAtlas.Proofs.Yaml.JsonNodes

/-!
# The formats agree

A block whose strings are made of printable ASCII characters is read back from its JSON text in both
formats.  So a table comes out the same from such a text whether it is taken for JSON or for YAML.

## Key results

- `Block.ofJson?_renderBlock`, `Block.ofYaml?_renderBlock`: the block is read back from its text
- `read_renderBlock`: reading and building in both formats
-/

namespace TokenAtlas

open Json Yaml

/-- A block with a text that means the same in both formats: its strings are made of printable ASCII
    characters, its keys are short, its numbers are integers of 64 bits with or without a sign, it
    nests no deeper than a reader goes, and its values stand for themselves. -/
structure Block.Portable (b : Block) : Prop where
  printable : PrintableMembers b.toList
  integral : IntegralMembers b.toList
  nesting : (Json.object b.toList).nesting ≤ Json.maxDepth
  canonical : ∀ m ∈ b.toList, m.2.canonical = m.2

namespace Block

variable {b : Block}

/-- The values in a block are those that its object stands for. -/
theorem toBlock?_object_toList (hc : ∀ m ∈ b.toList, m.2.canonical = m.2) :
    (Json.object b.toList).toBlock? = some b := by
  rw [Json.toBlock?, canonicalMembers_eq_self hc, Fields.ofList_toList]

theorem ofJson?_renderBlock (hb : b.Portable) : ofJson? (renderBlock b) = some b := by
  have hi : (Json.object b.toList).Integral := hb.integral
  rw [ofJson?, renderBlock, read?_render hi hb.nesting, Option.bind_some,
    toBlock?_object_toList hb.canonical]

theorem ofYaml?_renderBlock (hb : b.Portable) : ofYaml? (renderBlock b) = some b := by
  have hi : (Json.object b.toList).Integral := hb.integral
  obtain ⟨w, -, hw, -⟩ := exists_renders hi
  have hcontent : (Content.mapping (Content.ofMembers b.toList)).toBlock? = some b :=
    (Content.toBlock?_ofJson hw).trans (toBlock?_object_toList hb.canonical)
  have hdepth : nestingOfMembers b.toList ≤ Yaml.maxDepth - 1 := by
    have hnesting : nestingOfMembers b.toList + 1 ≤ 127 := hb.nesting
    rw [Yaml.maxDepth]
    omega
  have htokens : Token.ofText? (renderBlock b) = some (tokens (.object b.toList)) :=
    Token.ofText?_render hb.printable hb.integral
  -- Tokens, then the node of the object, and then its content, which is the block again.
  have hblock : block? (some (node (.object b.toList))) = some b := by
    rw [node, block?, expandMembers_eq, expand_memberNodes _ hb.integral hdepth]
    exact hcontent
  simp only [ofYaml?, htokens, readDocument?_tokens, hblock, Option.bind_eq_bind, Option.bind_some]

end Block

/-- A portable block is read back from its text in both formats, and any text that is the same in
    both gives the same table or the same error. -/
theorem read_renderBlock (map : String) {b : Block} (hb : b.Portable) :
    Block.read .json map (renderBlock b) = .ok b ∧ Block.read .yaml map (renderBlock b) = .ok b ∧
    ∀ k : EntryKind, k.ofText .json map (renderBlock b) = k.ofText .yaml map (renderBlock b) := by
  have hjson : Block.read .json map (renderBlock b) = .ok b := by
    rw [Block.read, Block.ofText?, Block.ofJson?_renderBlock hb]
  have hyaml : Block.read .yaml map (renderBlock b) = .ok b := by
    rw [Block.read, Block.ofText?, Block.ofYaml?_renderBlock hb]
  exact ⟨hjson, hyaml, fun k => EntryKind.ofText_congr (hjson.trans hyaml.symm)⟩

/-- Quoted words that look like something else, signs in strings and keys, and nested values. -/
theorem read_renderBlock_lookalikes :
    ∃ b : Block, b.get? "~" = some (.object [("1", .array [.array []])]) ∧
      (let text := "\x7b\"\\\"#: \\\\\":[\"true\",\"1\",\"# x\",\"a: b\",-5,null]," ++
        "\"~\":\x7b\"1\":[[]]\x7d\x7d"
      Block.read .json "m" text = .ok b ∧ Block.read .yaml "m" text = .ok b) := by
  let b : Block := ⟨[("\"#: \\", .array [.string "true", .string "1", .string "# x",
    .string "a: b", .number (.int (-5)), .null]), ("~", .object [("1", .array [.array []])])],
    by decide⟩
  have hb : b.Portable := by
    refine ⟨?_, ?_, by decide, ?_⟩
    · simp [b, PrintableMembers, Printable, PrintableItems, IsPrintable]
      decide
    · simp [b, IntegralMembers, Integral, IntegralItems]
    · intro m hm
      fin_cases hm <;> rfl
  have htext : renderBlock b = "\x7b\"\\\"#: \\\\\":[\"true\",\"1\",\"# x\",\"a: b\",-5,null]," ++
      "\"~\":\x7b\"1\":[[]]\x7d\x7d" := by decide +kernel
  obtain ⟨hjson, hyaml, -⟩ := read_renderBlock "m" hb
  exact ⟨b, rfl, htext ▸ hjson, htext ▸ hyaml⟩

end TokenAtlas
