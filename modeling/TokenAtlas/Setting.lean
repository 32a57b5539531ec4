import TokenAtlas.Entry
import TokenAtlas.Fault

/-!
# Settings

A setting is what a configuration says of one token: a bare string as a short form, or an array.

```
character   "Alpha"   ["Alpha"]   ["Alpha", null]   ["Beta", {"variant": "bold"}]
macro       "Frac"    ["Frac"]    ["Matrix", "(", null, 1.5, true]
```

`read` decides which setting a JSON value is, `expand` turns the short form into the long one, and
`make` makes the entry of a token.  `TableEntry` holds the three for each kind of entry, so that
tables are written once.
-/

namespace TokenAtlas

/-- A kind of entries: `σ` are its settings and `δ` the long forms of them. -/
class TableEntry (ε : Type) (σ δ : outParam Type) where
  /-- The setting that a JSON value is. -/
  read : Json → Except Malformation σ
  /-- The long form of a setting. -/
  expand : σ → δ
  /-- The entry of a token, if the long form is fit for one. -/
  make : String → δ → Except EntryFault ε

/-- What a configuration says of a character. -/
inductive CharacterSetting
  /-- Only what is shown for it. -/
  | shorthand (display : String)
  /-- What is shown for it, and attributes if there are any. -/
  | structured (display : String) (attributes : Option Attributes)

/-- What a configuration says of a macro. -/
inductive MacroSetting
  /-- Only its handler. -/
  | shorthand (handler : String)
  /-- Its handler, followed by the arguments bound to it. -/
  | sequence (items : List Argument)

namespace CharacterSetting

/-- Reads the members of an object as attributes, in order, up to the first that is none. -/
def readAttributes : List (String × Json) → Except Malformation (List (String × Argument))
  | [] => .ok []
  | (name, j) :: rest =>
    match Argument.ofJson? j with
    | .error reason => .error (.badAttribute name reason)
    | .ok a => (readAttributes rest).map ((name, a) :: ·)

/-- Reads the second element of an array. -/
def readSlot : List Json → Except Malformation (Option Attributes)
  | [] => .ok none
  | .null :: _ => .ok none
  | .object members :: _ => (readAttributes members).map fun fs => some (Fields.ofList fs)
  | j :: _ => .error (.attributesNotObject j.kind)

/-- Reads an array. -/
def readArray : List Json → Except Malformation CharacterSetting
  | [] => .error .missingDisplay
  | .string display :: rest =>
    -- A bad second element is reported before too many elements are.
    match readSlot rest with
    | .error m => .error m
    | .ok attributes =>
      if rest.length ≤ 1 then .ok (.structured display attributes)
      else .error (.tooManyElements (rest.length + 1))
  | j :: _ => .error (.displayNotText j.kind)

/-- The setting that a JSON value is. -/
def read : Json → Except Malformation CharacterSetting
  | .string display => .ok (.shorthand display)
  | .array items => readArray items
  | j => .error (.notTextOrList j.kind)

/-- What is shown, and the attributes; the short form has none. -/
def expand : CharacterSetting → String × Option Attributes
  | .shorthand display => (display, none)
  | .structured display attributes => (display, attributes)

end CharacterSetting

namespace MacroSetting

/-- Reads the elements of an array as arguments from the one with number `index` on, up to the first
    that is none. -/
def readItems (index : Nat) : List Json → Except Malformation (List Argument)
  | [] => .ok []
  | j :: rest =>
    match Argument.ofJson? j with
    | .error reason => .error (.badElement index reason)
    | .ok a => (readItems (index + 1) rest).map (a :: ·)

/-- The setting that a JSON value is. -/
def read : Json → Except Malformation MacroSetting
  | .string handler => .ok (.shorthand handler)
  | .array items => (readItems 0 items).map .sequence
  | j => .error (.notTextOrList j.kind)

/-- The handler and the arguments; the short form has no arguments. -/
def expand : MacroSetting → List Argument
  | .shorthand handler => [.text handler]
  | .sequence items => items

end MacroSetting

/-- The entry of a character.  Every display is fit for one. -/
def CharacterEntry.make (token : String) : String × Option Attributes → CharacterEntry
  | (display, attributes) => { symbol := token, display, attributes }

/-- The entry of a macro.  The first element must be there and be a text that is not empty. -/
def MacroEntry.make? (token : String) : List Argument → Except EntryFault MacroEntry
  | [] => .error .emptyDescriptor
  | .text handler :: args =>
    if handler.isEmpty then .error .emptyHandler else .ok { symbol := token, handler, args }
  | a :: _ => .error (.handlerNotText a.kind)

instance : TableEntry CharacterEntry CharacterSetting (String × Option Attributes) where
  read := CharacterSetting.read
  expand := CharacterSetting.expand
  make token d := .ok (CharacterEntry.make token d)

instance : TableEntry MacroEntry MacroSetting (List Argument) where
  read := MacroSetting.read
  expand := MacroSetting.expand
  make := MacroEntry.make?

end TokenAtlas
