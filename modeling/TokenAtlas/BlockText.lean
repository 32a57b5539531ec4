import TokenAtlas.DocumentFormat
import TokenAtlas.Json.Reader
import TokenAtlas.Table
import TokenAtlas.Yaml.Expansion

/-!
# Texts of blocks

`Block.ofText?` reads the text of a block, and `Table.ofText` makes the table that such a text
configures.
-/

namespace TokenAtlas

namespace Block

/-- The block that a text in YAML stands for. -/
def ofYaml? (text : String) : Option Block := do
  Yaml.block? (← Yaml.readDocument? (← Yaml.Token.ofText? text))

/-- The block that a text in JSON stands for. -/
def ofJson? (text : String) : Option Block := (Json.read? text).bind Json.toBlock?

/-- The block that a text in a format stands for. -/
def ofText? : DocumentFormat → String → Option Block
  | .json => ofJson?
  | .yaml => ofYaml?

/-- Reads the block for a map. -/
def read (format : DocumentFormat) (map text : String) : Except BuildError Block :=
  match ofText? format text with
  | some b => .ok b
  | none => .error (.unreadable map)

end Block

namespace Table

variable {ε σ δ : Type} [TableEntry ε σ δ]

/-- The table that a text configures. -/
def ofText (format : DocumentFormat) (name text : String) : Except BuildError (Table ε) :=
  match Block.read format name text with
  | .ok b => ofBlock name b
  | .error e => .error e

end Table

end TokenAtlas
