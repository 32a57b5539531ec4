import TokenAtlas.Argument

/-!
# Entries

What a table keeps for a token.  A `CharacterEntry` tells how a character is displayed and may carry
attributes; a `MacroEntry` names the handler of a control sequence and the arguments bound to it.
-/

namespace TokenAtlas

/-- Named arguments. -/
abbrev Attributes := Fields Argument

/-- What is known of a character. -/
structure CharacterEntry where
  /-- The token that the entry belongs to. -/
  symbol : String
  /-- What is shown for it. -/
  display : String
  /-- Its attributes.  Having none is not the same as having an empty set of them. -/
  attributes : Option Attributes
  deriving BEq

/-- What is known of a macro. -/
structure MacroEntry where
  /-- The token that the entry belongs to. -/
  symbol : String
  /-- The name of what handles it. -/
  handler : String
  /-- The arguments bound to it. -/
  args : List Argument
  deriving BEq

namespace CharacterEntry

/-- The attribute with a name. -/
def attribute? (e : CharacterEntry) (name : String) : Option Argument :=
  e.attributes.bind (·.get? name)

/-- The members of attributes in a JSON object, or null where there are no attributes. -/
def attributesToJson : Option Attributes → Json
  | none => .null
  | some fs => .object (fs.toList.map fun (name, a) => (name, a.toJson))

/-- The entry as a JSON object. -/
def toJson (e : CharacterEntry) : Json :=
  .object [("symbol", .string e.symbol), ("display", .string e.display),
    ("attributes", attributesToJson e.attributes)]

end CharacterEntry

namespace MacroEntry

/-- The entry as a JSON object. -/
def toJson (e : MacroEntry) : Json :=
  .object [("symbol", .string e.symbol), ("handler", .string e.handler),
    ("args", .array (e.args.map Argument.toJson))]

end MacroEntry

end TokenAtlas
