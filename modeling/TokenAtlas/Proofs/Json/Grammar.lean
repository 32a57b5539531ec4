import TokenAtlas.Json.Numeral

/-!
# The grammar of JSON texts

`Json.Renders w t` says that the characters `t` are a way to write `w`: a text of RFC 8259, given by
one rule for every form of value.  It says nothing of how a text is read.

A `Json.Written` keeps what a `Json` loses: numbers stand in it as numerals.  `Written.json?` gives
the value that a reader makes of it, and `Written.resolve` the value that it stands for when all its
numbers are integers.  Between them lie only the rules for numbers and for repeated names.

The rules use three grammars of their own: `Spells` for what stands between the quotes of a string,
`NumeralText` for numbers, and `Separated` for what stands between commas.
-/

namespace TokenAtlas.Json

/-! ## Blanks and digits -/

/-- A text of blanks: spaces, tabulators and the two line ends. -/
def Blank (t : List Char) : Prop := ∀ c ∈ t, c = ' ' ∨ c = '\t' ∨ c = '\n' ∨ c = '\r'

/-- Decimal digits, at least one of them. -/
def Digits (ds : List Nat) : Prop := ds ≠ [] ∧ ∀ d ∈ ds, d ≤ 9

/-- The characters of decimal digits. -/
def digitsText (ds : List Nat) : List Char := ds.map Nat.digitChar

/-! ## Numerals -/

/-- The text of the digits before the point: a zero, or digits of which the first is no zero. -/
inductive WholeText : List Nat → List Char → Prop
  | zero : WholeText [0] ['0']
  | digits {d : Nat} {ds : List Nat} (hd : d ≠ 0) (h : Digits (d :: ds)) :
      WholeText (d :: ds) (digitsText (d :: ds))

/-- The text of the decimal places, which may be missing together with the point. -/
inductive PlacesText : Option (List Nat) → List Char → Prop
  | absent : PlacesText none []
  | places {ds : List Nat} (h : Digits ds) : PlacesText (some ds) ('.' :: digitsText ds)

/-- The text of an exponent, which may be missing.  A plus sign may be left out. -/
inductive ExponentText : Option (Bool × List Nat) → List Char → Prop
  | absent : ExponentText none []
  | unsigned {e : Char} {ds : List Nat} (he : e = 'e' ∨ e = 'E') (h : Digits ds) :
      ExponentText (some (false, ds)) (e :: digitsText ds)
  | plus {e : Char} {ds : List Nat} (he : e = 'e' ∨ e = 'E') (h : Digits ds) :
      ExponentText (some (false, ds)) (e :: '+' :: digitsText ds)
  | minus {e : Char} {ds : List Nat} (he : e = 'e' ∨ e = 'E') (h : Digits ds) :
      ExponentText (some (true, ds)) (e :: '-' :: digitsText ds)

/-- The text of a minus sign, or of none. -/
def signText (negative : Bool) : List Char := if negative then ['-'] else []

/-- The text of a numeral: a sign, digits, decimal places and an exponent. -/
inductive NumeralText : Numeral → List Char → Prop
  | mk {negative : Bool} {whole : List Nat} {places : Option (List Nat)}
      {exponent : Option (Bool × List Nat)} {w p e : List Char} (hw : WholeText whole w)
      (hp : PlacesText places p) (he : ExponentText exponent e) :
      NumeralText { negative, whole, places, exponent } (signText negative ++ (w ++ (p ++ e)))

/-! ## Strings -/

/-- The value of a hexadecimal digit of either case. -/
inductive HexDigit : Char → Nat → Prop
  | decimal {c : Char} {d : Nat} (hd : d < 10) (hc : c.toNat = 48 + d) : HexDigit c d
  | lower {c : Char} {d : Nat} (hd : d < 6) (hc : c.toNat = 97 + d) : HexDigit c (10 + d)
  | upper {c : Char} {d : Nat} (hd : d < 6) (hc : c.toNat = 65 + d) : HexDigit c (10 + d)

/-- Four hexadecimal digits and the code unit that they write. -/
inductive CodeUnit : List Char → Nat → Prop
  | mk {a b c d : Char} {va vb vc vd : Nat} (ha : HexDigit a va) (hb : HexDigit b vb)
      (hc : HexDigit c vc) (hd : HexDigit d vd) :
      CodeUnit [a, b, c, d] (((va * 16 + vb) * 16 + vc) * 16 + vd)

/-- The letters that stand after a backslash, and the characters that they stand for there. -/
def shortEscapes : List (Char × Char) :=
  [('"', '"'), ('\\', '\\'), ('/', '/'), ('b', '\x08'), ('f', '\x0c'), ('n', '\n'), ('r', '\r'),
    ('t', '\t')]

/-- A text between quotes spells characters: any mix of characters that stand for themselves, short
    escapes, code units, and surrogate pairs for the characters that need two code units. -/
inductive Spells : List Char → List Char → Prop
  | nil : Spells [] []
  | plain {c : Char} {cs t : List Char} (hc : 0x20 ≤ c.toNat) (hq : c ≠ '"') (hb : c ≠ '\\')
      (ht : Spells cs t) : Spells (c :: cs) (c :: t)
  | short {e c : Char} {cs t : List Char} (he : (e, c) ∈ shortEscapes) (ht : Spells cs t) :
      Spells (c :: cs) ('\\' :: e :: t)
  | unit {c : Char} {cs u t : List Char} (hu : CodeUnit u c.toNat) (ht : Spells cs t) :
      Spells (c :: cs) ('\\' :: 'u' :: (u ++ t))
  | pair {c : Char} {cs u v t : List Char} {high low : Nat} (hu : CodeUnit u high)
      (hv : CodeUnit v low) (hhigh : 0xD800 ≤ high ∧ high < 0xDC00)
      (hlow : 0xDC00 ≤ low ∧ low < 0xE000)
      (hc : c.toNat = 0x10000 + (high - 0xD800) * 0x400 + (low - 0xDC00)) (ht : Spells cs t) :
      Spells (c :: cs) ('\\' :: 'u' :: (u ++ '\\' :: 'u' :: (v ++ t)))

/-! ## Values -/

/-- A JSON text with its numbers as they are written. -/
inductive Written
  | null
  | bool (b : Bool)
  | numeral (m : Numeral)
  | string (s : String)
  | array (items : List Written)
  | object (members : List (String × Written))
  deriving Inhabited

/-- Things between commas, at least one of them, with blanks around each. -/
inductive Separated {α : Type} (R : α → List Char → Prop) : List α → List Char → Prop
  | one {x : α} {b t b' : List Char} (hb : Blank b) (hx : R x t) (hb' : Blank b') :
      Separated R [x] (b ++ (t ++ b'))
  | cons {x : α} {xs : List α} {b t b' r : List Char} (hb : Blank b) (hx : R x t)
      (hb' : Blank b') (hr : Separated R xs r) :
      Separated R (x :: xs) (b ++ (t ++ (b' ++ ',' :: r)))

/-- A member of an object: its name in quotes, a colon with blanks around it, and its value. -/
inductive MemberText (R : Written → List Char → Prop) : String × Written → List Char → Prop
  | mk {name : String} {w : Written} {n b b' t : List Char} (hn : Spells name.toList n)
      (hb : Blank b) (hb' : Blank b') (hw : R w t) :
      MemberText R (name, w) ('"' :: (n ++ '"' :: (b ++ ':' :: (b' ++ t))))

/-- The text of a value. -/
inductive Renders : Written → List Char → Prop
  | null : Renders .null ['n', 'u', 'l', 'l']
  | true : Renders (.bool true) ['t', 'r', 'u', 'e']
  | false : Renders (.bool false) ['f', 'a', 'l', 's', 'e']
  | numeral {m : Numeral} {t : List Char} (h : NumeralText m t) : Renders (.numeral m) t
  | string {s : String} {t : List Char} (h : Spells s.toList t) :
      Renders (.string s) ('"' :: (t ++ ['"']))
  | emptyArray {b : List Char} (hb : Blank b) : Renders (.array []) ('[' :: (b ++ [']']))
  | array {items : List Written} {t : List Char} (h : Separated Renders items t) :
      Renders (.array items) ('[' :: (t ++ [']']))
  | emptyObject {b : List Char} (hb : Blank b) :
      Renders (.object []) ('\x7b' :: (b ++ ['\x7d']))
  | object {members : List (String × Written)} {t : List Char}
      (h : Separated (MemberText Renders) members t) :
      Renders (.object members) ('\x7b' :: (t ++ ['\x7d']))

/-- A text that consists of a value with blanks around it. -/
inductive TextOf (w : Written) : String → Prop
  | mk {b t b' : List Char} (hb : Blank b) (hw : Renders w t) (hb' : Blank b') :
      TextOf w (String.ofList (b ++ (t ++ b')))

/-! ## What written values stand for -/

/-- Whether a numeral is written as an integer.  Minus zero is none. -/
def Numeral.IsInteger (m : Numeral) : Prop :=
  m.places = none ∧ m.exponent = none ∧ (m.negative = true → ofDigits m.whole ≠ 0)

/-- The integer that the sign and the digits before the point write. -/
def Numeral.toInt (m : Numeral) : Int :=
  if m.negative then -(ofDigits m.whole : Int) else (ofDigits m.whole : Int)

namespace Written

mutual

/-- How deep arrays and objects nest. -/
def depth : Written → Nat
  | .array items => depthOfItems items + 1
  | .object members => depthOfMembers members + 1
  | _ => 0

/-- How deep the items of an array nest. -/
def depthOfItems : List Written → Nat
  | [] => 0
  | w :: rest => max w.depth (depthOfItems rest)

/-- How deep the values of an object nest. -/
def depthOfMembers : List (String × Written) → Nat
  | [] => 0
  | (_, w) :: rest => max w.depth (depthOfMembers rest)

end

mutual

/-- The value with its members as they are written, unless a numeral stands for nothing. -/
def json? : Written → Option Json
  | .null => some .null
  | .bool b => some (.bool b)
  | .numeral m => m.value?.map .number
  | .string s => some (.string s)
  | .array items => (jsonItems? items).map .array
  | .object members => (jsonMembers? members).map .object

/-- The values of the items of an array. -/
def jsonItems? : List Written → Option (List Json)
  | [] => some []
  | w :: rest => do
    let j ← w.json?
    let js ← jsonItems? rest
    some (j :: js)

/-- The members of an object. -/
def jsonMembers? : List (String × Written) → Option (List (String × Json))
  | [] => some []
  | (name, w) :: rest => do
    let j ← w.json?
    let ms ← jsonMembers? rest
    some ((name, j) :: ms)

end

/-- The value that a text stands for, unless a numeral stands for nothing. -/
def value? (w : Written) : Option Json := w.json?.map canonical

mutual

/-- The value that a text of integers stands for.  Of the members of an object with one name the
    last one counts. -/
def resolve : Written → Json
  | .null => .null
  | .bool b => .bool b
  | .numeral m => .number (.int m.toInt)
  | .string s => .string s
  | .array items => .array (resolveItems items)
  | .object members => .object (Fields.ofList (resolveMembers members)).toList

/-- The values that the items of an array stand for. -/
def resolveItems : List Written → List Json
  | [] => []
  | w :: rest => w.resolve :: resolveItems rest

/-- The members of an object in their order, with the values that theirs stand for. -/
def resolveMembers : List (String × Written) → List (String × Json)
  | [] => []
  | (name, w) :: rest => (name, w.resolve) :: resolveMembers rest

end

mutual

/-- Whether every number is written as an integer between two bounds. -/
def IntegersWithin (low high : Int) : Written → Prop
  | .numeral m => m.IsInteger ∧ low ≤ m.toInt ∧ m.toInt ≤ high
  | .array items => ItemsWithin low high items
  | .object members => MembersWithin low high members
  | _ => True

/-- Whether the same holds of all items of an array. -/
def ItemsWithin (low high : Int) : List Written → Prop
  | [] => True
  | w :: rest => IntegersWithin low high w ∧ ItemsWithin low high rest

/-- Whether the same holds of all values of an object. -/
def MembersWithin (low high : Int) : List (String × Written) → Prop
  | [] => True
  | (_, w) :: rest => IntegersWithin low high w ∧ MembersWithin low high rest

end

end Written

end TokenAtlas.Json
