import TokenAtlas.Decimal.Layout
import TokenAtlas.Json.Basic

/-!
# Writing JSON

`Json.render` writes a value without blanks, its members in their order.  In strings the quote, the
backslash and the control characters are escaped and nothing else.  Numbers follow `Layout.json`; an
infinity or NaN has no form in JSON and is written as `null`.
-/

namespace TokenAtlas.Json

/-- A hexadecimal digit in lower case. -/
def hexChar (n : Nat) : Char := Nat.digitChar (n % 16)

/-- A character as it stands in a string. -/
def escapeChar (c : Char) : List Char :=
  match c with
  | '"' => ['\\', '"']
  | '\\' => ['\\', '\\']
  | '\x08' => ['\\', 'b']
  | '\x0c' => ['\\', 'f']
  | '\n' => ['\\', 'n']
  | '\r' => ['\\', 'r']
  | '\t' => ['\\', 't']
  | c =>
    if c < ' ' then ['\\', 'u', '0', '0', hexChar (c.toNat / 16), hexChar c.toNat] else [c]

/-- A string between its quotes. -/
def renderString (s : String) : List Char := '"' :: (s.toList.flatMap escapeChar ++ ['"'])

/-- The decimal digits of a whole number, after a minus sign if it is negative. -/
def renderInt (n : Int) : List Char :=
  if n < 0 then '-' :: Nat.toDigits 10 n.natAbs else Nat.toDigits 10 n.natAbs

/-- A floating-point number. -/
def renderFloat (x : Binary64) : List Char :=
  if x.isFinite then Decimal.Layout.json.render x else "null".toList

/-- A number. -/
def renderNumber : Number → List Char
  | .int n => renderInt n
  | .float x => renderFloat x

mutual

/-- The text of a value. -/
def renderChars : Json → List Char
  | .null => "null".toList
  | .bool true => "true".toList
  | .bool false => "false".toList
  | .number n => renderNumber n
  | .string s => renderString s
  | .array items => '[' :: (renderItems items ++ [']'])
  | .object members => '\x7b' :: (renderMembers members ++ ['\x7d'])

/-- The texts of the items of an array, with commas between them. -/
def renderItems : List Json → List Char
  | [] => []
  | [j] => renderChars j
  | j :: rest => renderChars j ++ ',' :: renderItems rest

/-- The members of an object, with commas between them. -/
def renderMembers : List (String × Json) → List Char
  | [] => []
  | [(name, j)] => renderString name ++ ':' :: renderChars j
  | (name, j) :: rest => renderString name ++ ':' :: (renderChars j ++ ',' :: renderMembers rest)

end

/-- The text of a value. -/
def render (j : Json) : String := String.ofList (renderChars j)

/-- The text of a block. -/
def renderBlock (b : Block) : String := render (.object b.toList)

end TokenAtlas.Json
