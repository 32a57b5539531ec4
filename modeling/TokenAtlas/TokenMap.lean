import TokenAtlas.Recognizer
import TokenAtlas.Table

/-!
# Maps

A `TokenMap` is a map of one of the three kinds: patterns, characters or macros.  All of them answer
what they are called and what they know of a token.
-/

namespace TokenAtlas

/-- The kinds of maps. -/
inductive MapKind
  | patterns
  | characters
  | macros
  deriving DecidableEq, Repr

/-- The word for a kind of maps. -/
def MapKind.name : MapKind → String
  | .patterns => "pattern"
  | .characters => "character"
  | .macros => "macro"

/-- What a map knows of a token. -/
inductive Found
  /-- The pattern of the map occurs in it. -/
  | matched
  /-- The entry of a character. -/
  | characterEntry (e : CharacterEntry)
  /-- The entry of a macro. -/
  | macroEntry (e : MacroEntry)
  deriving BEq

namespace Found

/-- The word for what was found, and the entry if there is one, as members of a JSON object. -/
def toMembers : Found → List (String × Json)
  | .matched => [("kind", .string "matched")]
  | .characterEntry e => [("kind", .string "character"), ("entry", e.toJson)]
  | .macroEntry e => [("kind", .string "macro"), ("entry", e.toJson)]

/-- What was found as a JSON object. -/
def toJson (found : Found) : Json := .object found.toMembers

end Found

/-- The members that a value adds to an object that takes it up.  Null adds none; a value of another
    kind has no members and cannot be taken up. -/
def Json.taken : Json → Except Json.Kind (List (String × Json))
  | .object members => .ok members
  | .null => .ok []
  | j => .error j.kind

/-- A map from tokens to what is known of them. -/
inductive TokenMap
  | patterns (m : Recognizer)
  | characters (t : Table CharacterEntry)
  | macros (t : Table MacroEntry)

namespace TokenMap

/-- The kind of a map. -/
def kind : TokenMap → MapKind
  | .patterns _ => .patterns
  | .characters _ => .characters
  | .macros _ => .macros

/-- The name of a map. -/
def name : TokenMap → String
  | .patterns m => m.name
  | .characters t => t.name
  | .macros t => t.name

/-- What a map knows of a token. -/
def lookup? (m : TokenMap) (token : String) : Option Found :=
  match m with
  | .patterns m => if m.contains token then some .matched else none
  | .characters t => (t.lookup? token).map .characterEntry
  | .macros t => (t.lookup? token).map .macroEntry

/-- Whether a map knows a token. -/
def contains (m : TokenMap) (token : String) : Bool :=
  match m with
  | .patterns m => m.contains token
  | .characters t => t.contains token
  | .macros t => t.contains token

/-- The number of entries.  A map of patterns has none. -/
def size : TokenMap → Nat
  | .patterns _ => 0
  | .characters t => t.size
  | .macros t => t.size

/-- Whether there are no entries. -/
def isEmpty (m : TokenMap) : Bool := m.size == 0

/-- The tokens that have entries, in increasing order. -/
def tokens : TokenMap → List String
  | .patterns _ => []
  | .characters t => t.tokens
  | .macros t => t.tokens

/-- A map knows the tokens for which a look-up finds something. -/
theorem contains_eq_isSome (m : TokenMap) (token : String) :
    m.contains token = (m.lookup? token).isSome := by
  cases m with
  | patterns m => by_cases h : m.contains token <;> simp [contains, lookup?, h]
  | characters t => simp [contains, lookup?, Table.contains_eq_isSome]
  | macros t => simp [contains, lookup?, Table.contains_eq_isSome]

end TokenMap

end TokenAtlas
