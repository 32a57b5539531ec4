import TokenAtlas.Atlas
import TokenAtlas.Content

/-!
# Definitions of maps

A `Definition` says how to build one map: its kind, its name, and its pattern or its entries.
`Definition.ofContent?` reads one from a document.  There it is a mapping with the members `kind`,
`name` and `pattern` or `entries`, in any order and with others between them, or a list of these
three values.  A member that is asked for must not be repeated.

A key that is a small number counts as well: the members of a definition are numbered, the name
being number zero and the pattern or the entries number one.
-/

namespace TokenAtlas

/-- How to build one map. -/
inductive Definition
  | patterns (name pattern : String)
  | characters (name : String) (entries : Block)
  | macros (name : String) (entries : Block)

namespace Definition

/-- The name of the map. -/
def name : Definition → String
  | .patterns name _ => name
  | .characters name _ => name
  | .macros name _ => name

/-- Builds the map. -/
def build [Pattern.SizeCheck] : Definition → Except BuildError TokenMap
  | .patterns name pattern => (Recognizer.ofSource name pattern).map .patterns
  | .characters name entries => (Table.ofBlock name entries).map .characters
  | .macros name entries => (Table.ofBlock name entries).map .macros

/-- The kind of maps that a word stands for. -/
def kindOfWord? : String → Option MapKind
  | "pattern" => some .patterns
  | "character" => some .characters
  | "macro" => some .macros
  | _ => none

/-- The name of the third member of a definition. -/
def lastMember : MapKind → String
  | .patterns => "pattern"
  | .characters => "entries"
  | .macros => "entries"

/-- The definition of a kind with a name and a third value. -/
def make? (kind : MapKind) (name : String) (last : Content) : Option Definition :=
  match kind with
  | .patterns => last.toName?.map (.patterns name)
  | .characters => last.toBlock?.map (.characters name)
  | .macros => last.toBlock?.map (.macros name)

/-- What a key of a definition asks for. -/
inductive Member
  | name
  | last
  | other

/-- What a key stands for in a definition of a kind; some contents cannot be keys. -/
def member? (kind : MapKind) : Content → Option Member
  | .text s => some (if s = "name" then .name else if s = lastMember kind then .last else .other)
  | .number (.int n) =>
    if n < 0 then none else some (if n = 0 then .name else if n = 1 then .last else .other)
  | _ => none

/-- Sorts out the members of a definition of a kind: the name and the third value, if they have been
    found, without repetitions. -/
def collect? (kind : MapKind) (name : Option String) (last : Option Content) :
    List (Content × Content) → Option (Option String × Option Content)
  | [] => some (name, last)
  | (key, c) :: rest => do
    match ← member? kind key with
    | .name =>
      if name.isSome then none
      let s ← c.toName?
      collect? kind (some s) last rest
    -- What the third value must be is only asked when all members are known.
    | .last =>
      if last.isSome then none
      collect? kind name (some c) rest
    | .other => collect? kind name last rest

/-- Whether a key is the one of the kind of a definition. -/
def isKindKey : Content → Bool
  | .text s => s == "kind"
  | _ => false

/-- The kind that the members of a definition name, if just one of them does. -/
def kindOf? (members : List (Content × Content)) : Option MapKind :=
  match members.filter (isKindKey ·.1) with
  | [(_, c)] => c.toName?.bind kindOfWord?
  | _ => none

/-- Reads a definition that is written as a mapping. -/
def ofMembers? (kind : MapKind) (members : List (Content × Content)) : Option Definition := do
  match ← collect? kind none none (members.filter (!isKindKey ·.1)) with
  | (some name, some last) => make? kind name last
  | _ => none

/-- Reads a definition that is written as a list, after its kind. -/
def ofItems? (kind : MapKind) : List Content → Option Definition
  | [name, last] => do make? kind (← name.toName?) last
  | _ => none

/-- Reads a definition. -/
def ofContent? : Content → Option Definition
  | .mapping members => do ofMembers? (← kindOf? members) members
  | .list (kind :: items) => do ofItems? (← kind.toName?.bind kindOfWord?) items
  | _ => none

end Definition

end TokenAtlas
