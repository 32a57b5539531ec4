import TokenAtlas.Unicode.Ranges
import TokenAtlas.Unicode.GeneralCategory
import TokenAtlas.Unicode.Script
import TokenAtlas.Unicode.Age
import TokenAtlas.Unicode.BinaryProperty
import TokenAtlas.Unicode.Break
import TokenAtlas.Unicode.CaseFolding

/-!
# Character properties by name

`propertySet?` finds the set of characters for the name of a property, a general category or a
script; `valueSet?` finds the one for a property with a value.  Names are compared loosely
(`looseName`): case, spaces, hyphens and underscores do not count, nor does a leading `is`.

The sets that other modules need under a fixed name are constants here: `whiteSpace`,
`decimalDigit`, `wordCharacter`, `alphabetic`, `alphanumeric` and `unprintable`.
-/

namespace TokenAtlas.Unicode

/-- A name without what a comparison of names leaves out.  One name is kept from being read as a
    category: `isc` is the name of a property. -/
def looseName (name : String) : String :=
  let cs := name.toList
  let startsWithIs := (cs.take 2).map Char.toLower == ['i', 's']
  let kept := (if startsWithIs then cs.drop 2 else cs).filterMap fun c =>
    if c = ' ' || c = '_' || c = '-' || 0x7F < c.toNat then none else some c.toLower
  if startsWithIs && kept == ['c'] then "isc" else String.ofList kept

/-- All characters. -/
def anyCharacter : Ranges := ⟨[(0, 0x10FFFF)]⟩

/-- The complement of a set whose ranges are in increasing order. -/
def Ranges.complement (r : Ranges) : Ranges :=
  let rec go (start : Nat) : List (Nat × Nat) → List (Nat × Nat)
    | [] => if start ≤ 0x10FFFF then [(start, 0x10FFFF)] else []
    | (low, high) :: rest =>
      if start < low then (start, low - 1) :: go (high + 1) rest else go (high + 1) rest
  ⟨go 0 r.toList⟩

/-- The characters of a general category or of a group of them. -/
def generalCategory? (name : String) : Option Ranges :=
  match name with
  | "any" => some anyCharacter
  | "ascii" => some ⟨[(0, 0x7F)]⟩
  | "assigned" => (lookUp? generalCategories "cn").map Ranges.complement
  | _ =>
    match categoryGroups.find? (·.1.contains name) with
    | some (_, members) => some (.unions (members.filterMap (lookUp? generalCategories)))
    | none => lookUp? generalCategories name

/-- The characters of a script. -/
def script? (name : String) : Option Ranges := lookUp? scripts name

/-- The characters used with a script. -/
def scriptExtension? (name : String) : Option Ranges :=
  lookUp? scriptExtensions name <|> script? name

/-- The characters that were assigned in a version or before it. -/
def age? (name : String) : Option Ranges :=
  let later := ages.dropWhile (fun row => !row.1.contains name)
  if later.isEmpty then none
  else
    some (.unions ((ages.take (ages.length - later.length + 1)).map (Ranges.ofRuns ·.2)))

/-- The characters that a bare name stands for: those with a binary property, of a general category
    or of a script. -/
def propertySet? (name : String) : Option Ranges :=
  let name := looseName name
  lookUp? binaryProperties name <|> generalCategory? name <|> script? name

/-- The characters for which a property has a value. -/
def valueSet? (property value : String) : Option Ranges :=
  let value := looseName value
  match looseName property with
  | "gc" | "generalcategory" => generalCategory? value
  | "sc" | "script" => script? value
  | "scx" | "scriptextensions" => scriptExtension? value
  | "age" => age? value
  | "gcb" | "graphemeclusterbreak" => lookUp? graphemeBreaks value
  | "wb" | "wordbreak" => lookUp? wordBreaks value
  | "sb" | "sentencebreak" => lookUp? sentenceBreaks value
  | _ => none

/-- The set that one of the tables has under a name that is known to be in it. -/
def tableSet (table : List (List String × String)) (name : String) : Ranges :=
  (lookUp? table name).getD ⟨[]⟩

/-- Blank characters. -/
def whiteSpace : Ranges := tableSet binaryProperties "whitespace"

/-- Decimal digits of all scripts. -/
def decimalDigit : Ranges := tableSet generalCategories "nd"

/-- Letters and what counts as letters. -/
def alphabetic : Ranges := tableSet binaryProperties "alphabetic"

/-- Letters, what counts as letters, and numbers of all kinds. -/
def alphanumeric : Ranges :=
  .unions (alphabetic :: ["nd", "nl", "no"].map (tableSet generalCategories))

/-- What words are made of: letters, marks, digits, connectors, and the characters that join. -/
def wordCharacter : Ranges :=
  .unions (alphabetic :: tableSet binaryProperties "joincontrol" ::
    ["mn", "mc", "me", "nd", "pc"].map (tableSet generalCategories))

/-- The characters that extend the one before them. -/
def graphemeExtend : Ranges := tableSet binaryProperties "graphemeextend"

/-- Controls, formats, private and unassigned code points, and separators other than the space. -/
def unprintable : Ranges :=
  .unions (["cc", "cf", "co", "cn", "zl", "zp", "zs"].map (tableSet generalCategories))

/-- Groups numbers in pairs. -/
def pairUp : List Nat → List (Nat × Nat)
  | a :: b :: rest => (a, b) :: pairUp rest
  | _ => []

/-- The characters that simple case folding changes, with what they become. -/
def foldings : List (Nat × Nat) := pairUp (hexNumbers none foldingPairs.toList)

/-- What simple case folding makes of a code point. -/
def foldCase (c : Nat) : Nat :=
  match foldings.find? (·.1 = c) with
  | some (_, folded) => folded
  | none => c

/-- The characters that differ from a character at most in case, the character itself included. -/
def caseVariants (c : Char) : List Char :=
  let folded := foldCase c.toNat
  Char.ofNat folded :: (foldings.filter (·.2 = folded)).map (Char.ofNat ·.1)

end TokenAtlas.Unicode
