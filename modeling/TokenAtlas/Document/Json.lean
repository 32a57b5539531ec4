import TokenAtlas.Content
import TokenAtlas.Json.Reader

/-!
# Documents in JSON

A document is an object with one member `maps`, and others that do not count.  It may also be an
array with that member's value as its only item.  The value is an array, whose items this module
finds.
-/

namespace TokenAtlas.Document

/-- Reads a member of a document.  The value of any other member than `maps` is only passed over. -/
def readJsonMember (s : List Char) : Option (Option Json × List Char) :=
  match Json.readName? s with
  | some ("maps", rest) =>
    (Json.readValue (Json.maxDepth - 1) rest).map fun (j, rest) => (some j, rest)
  | some (_, rest) => (Json.skipValue rest.length rest).map fun (_, rest) => (none, rest)
  | none => none

/-- Reads the candidates for the array of maps. -/
def readJsonRoot : List Char → Option (List Json × List Char)
  | '\x7b' :: rest =>
    (Json.readSequence readJsonMember '\x7d' rest).map fun (ms, rest) =>
      (ms.filterMap id, rest)
  | '[' :: rest => Json.readSequence (Json.readValue (Json.maxDepth - 1)) ']' rest
  | _ => none

/-- The contents of the items that a document in JSON has for its maps. -/
def jsonItems? (text : String) : Option (List Content) :=
  match Json.readWhole? readJsonRoot text with
  | some [.array items] => some (Content.ofItems items)
  | _ => none

end TokenAtlas.Document
