import TokenAtlas.Json.Basic

/-!
# Contents of documents

A `Content` is what a document says at one place, before it is known what it says it for.  It is
more general than JSON: the keys of a mapping may be anything.  Where names are needed,
`Content.toJson?` asks for texts.
-/

namespace TokenAtlas

/-- What a document says at one place. -/
inductive Content
  | null
  | bool (b : Bool)
  | number (n : Number)
  | text (s : String)
  | list (items : List Content)
  | mapping (members : List (Content × Content))
  deriving Inhabited

namespace Content

mutual

/-- The content of a JSON text. -/
def ofJson : Json → Content
  | .null => .null
  | .bool b => .bool b
  | .number n => .number n
  | .string s => .text s
  | .array items => .list (ofItems items)
  | .object members => .mapping (ofMembers members)

/-- The contents of the items of an array. -/
def ofItems : List Json → List Content
  | [] => []
  | j :: rest => ofJson j :: ofItems rest

/-- The contents of the members of an object. -/
def ofMembers : List (String × Json) → List (Content × Content)
  | [] => []
  | (name, j) :: rest => (.text name, ofJson j) :: ofMembers rest

end

/-- The JSON number of a number; an infinity or NaN has none and becomes null. -/
def numberToJson : Number → Json
  | .int n => .number (.int n)
  | .float x => if x.isFinite then .number (.float x) else .null

/-- A name, if the content is a text. -/
def toName? : Content → Option String
  | .text s => some s
  | _ => none

mutual

/-- The JSON text of a content, if all keys in it are texts. -/
def toJson? : Content → Option Json
  | .null => some .null
  | .bool b => some (.bool b)
  | .number n => some (numberToJson n)
  | .text s => some (.string s)
  | .list items => (toItems? items).map .array
  | .mapping members => (toMembers? members).map .object

/-- The JSON texts of the items of a list. -/
def toItems? : List Content → Option (List Json)
  | [] => some []
  | c :: rest => do
    let j ← toJson? c
    let js ← toItems? rest
    some (j :: js)

/-- The members of a mapping whose keys are texts. -/
def toMembers? : List (Content × Content) → Option (List (String × Json))
  | [] => some []
  | (key, c) :: rest => do
    let name ← key.toName?
    let j ← toJson? c
    let ms ← toMembers? rest
    some ((name, j) :: ms)

end

/-- The block that a mapping stands for. -/
def toBlock? (c : Content) : Option Block := c.toJson?.bind Json.toBlock?

end Content

end TokenAtlas
