import TokenAtlas.Argument

/-!
# Faults

Why a map cannot be built, as causes.  A `Malformation` is a value of the wrong shape, an
`EntryFault` is what is wrong with one entry, and a `BuildError` is what is wrong with a map.  Each
has one wording.
-/

namespace TokenAtlas

/-- How the value of an entry departs from the shapes that are allowed. -/
inductive Malformation
  /-- The value is neither a string nor an array. -/
  | notTextOrList (found : Json.Kind)
  /-- The array of a character has no first element. -/
  | missingDisplay
  /-- The first element of the array of a character is not a string. -/
  | displayNotText (found : Json.Kind)
  /-- The second element of the array of a character is neither an object nor null. -/
  | attributesNotObject (found : Json.Kind)
  /-- An attribute of a character is not an argument. -/
  | badAttribute (name : String) (reason : Argument.Rejection)
  /-- The array of a character has more than two elements. -/
  | tooManyElements (count : Nat)
  /-- An element of the array of a macro is not an argument. -/
  | badElement (index : Nat) (reason : Argument.Rejection)
  deriving DecidableEq

/-- The wording of a malformation. -/
def Malformation.message : Malformation → String
  | .notTextOrList found => "expected a string or an array, found " ++ found.name
  | .missingDisplay => "missing display string"
  | .displayNotText found => "display must be a string, found " ++ found.name
  | .attributesNotObject found => "attributes must be an object or null, found " ++ found.name
  | .badAttribute name reason => "attribute '" ++ name ++ "': " ++ reason.message
  | .tooManyElements count => "expected at most 2 elements, found " ++ count.repr
  | .badElement index reason => "element " ++ index.repr ++ ": " ++ reason.message

/-- What is wrong with an entry. -/
inductive EntryFault
  /-- Its value has the wrong shape. -/
  | malformed (how : Malformation)
  /-- The descriptor of a macro is empty. -/
  | emptyDescriptor
  /-- The handler of a macro is the empty text. -/
  | emptyHandler
  /-- The handler of a macro is not a text. -/
  | handlerNotText (found : Argument.Kind)
  deriving DecidableEq

/-- Why a map cannot be built or taken up. -/
inductive BuildError
  /-- An entry of the map is at fault. -/
  | entry (map key : String) (fault : EntryFault)
  /-- The pattern of the map is not well formed, or too large. -/
  | invalidPattern (map : String)
  /-- The text of the configuration cannot be read. -/
  | unreadable (map : String)
  /-- There is a map with this name already. -/
  | duplicateName (name : String)
  deriving DecidableEq

namespace BuildError

/-- The wording of an error.  What a reader of texts or patterns would say in detail is left out
    after the colon. -/
def message : BuildError → String
  | .entry map key (.malformed how) =>
    "malformed entry '" ++ key ++ "' in map '" ++ map ++ "': " ++ how.message
  | .entry map key .emptyDescriptor =>
    "macro '" ++ key ++ "' in map '" ++ map ++ "' has an empty descriptor"
  | .entry map key .emptyHandler =>
    "macro '" ++ key ++ "' in map '" ++ map ++ "' names an empty handler"
  | .entry map key (.handlerNotText found) =>
    "macro '" ++ key ++ "' in map '" ++ map ++ "': handler must be a string, found " ++ found.name
  | .invalidPattern map => "invalid pattern for map '" ++ map ++ "': "
  | .unreadable map => "cannot parse configuration block for map '" ++ map ++ "': "
  | .duplicateName name => "duplicate map name '" ++ name ++ "'"

/-- The token whose entry is at fault. -/
def key? : BuildError → Option String
  | .entry _ key _ => some key
  | _ => none

end BuildError

end TokenAtlas
