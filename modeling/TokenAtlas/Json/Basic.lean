import TokenAtlas.Fields
import TokenAtlas.Binary64

/-!
# JSON values

A `Json` holds a JSON text as it is written: an object lists its members in their order, and a name
may come more than once.  `Json.canonical` gives the value that the text stands for, in which every
object has its names in order and each of them once, with the value that was written last.

A `Block` is what a configuration consists of: the members of one such object.
-/

namespace TokenAtlas

/-- A number: a whole number of at most 64 bits, or a floating-point number. -/
inductive Number
  | int (n : Int)
  | float (x : Binary64)
  deriving DecidableEq

/-- A JSON text, with the members of objects as they are written. -/
inductive Json
  | null
  | bool (b : Bool)
  | number (n : Number)
  | string (s : String)
  | array (items : List Json)
  | object (members : List (String × Json))
  deriving Inhabited

/-- Values under names: what one map is configured by. -/
abbrev Block := Fields Json

namespace Json

/-- The six kinds of values. -/
inductive Kind
  | null
  | boolean
  | number
  | string
  | array
  | object
  deriving DecidableEq, Repr

/-- The word for a kind of value. -/
def Kind.name : Kind → String
  | .null => "null"
  | .boolean => "boolean"
  | .number => "number"
  | .string => "string"
  | .array => "array"
  | .object => "object"

/-- The kind of a value. -/
def kind : Json → Kind
  | .null => .null
  | .bool _ => .boolean
  | .number _ => .number
  | .string _ => .string
  | .array _ => .array
  | .object _ => .object

mutual

/-- The value that a text stands for. -/
def canonical : Json → Json
  | .array items => .array (canonicalItems items)
  | .object members => .object (Fields.ofList (canonicalMembers members)).toList
  | j => j

/-- The values that the items of an array stand for. -/
def canonicalItems : List Json → List Json
  | [] => []
  | j :: rest => canonical j :: canonicalItems rest

/-- The members of an object, in their order, with the values that theirs stand for. -/
def canonicalMembers : List (String × Json) → List (String × Json)
  | [] => []
  | (name, j) :: rest => (name, canonical j) :: canonicalMembers rest

end

/-- The block that an object stands for. -/
def toBlock? : Json → Option Block
  | .object members => some (Fields.ofList (canonicalMembers members))
  | _ => none

theorem canonicalItems_eq_map (items : List Json) :
    canonicalItems items = items.map canonical := by
  induction items with
  | nil => rfl
  | cons j rest ih => simp [canonicalItems, ih]

theorem canonicalMembers_eq_map (members : List (String × Json)) :
    canonicalMembers members = members.map (fun m => (m.1, canonical m.2)) := by
  induction members with
  | nil => rfl
  | cons m rest ih => simp [canonicalMembers, ih]

end Json

end TokenAtlas
