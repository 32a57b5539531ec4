import TokenAtlas.Content
import TokenAtlas.Decimal.Reader
import TokenAtlas.Yaml.Node

/-!
# What scalars stand for

A plain scalar stands for null, a truth value, a number or a text, by the way it is written.  Other
scalars are texts.  A tag can ask for one of these meanings, and then the scalar must be written in
that way; a tag of a document's own has no meaning here.

Whole numbers are written in decimal, or after `0x`, `0o` or `0b` in hexadecimal, octal or binary
digits.  A decimal number that begins with a superfluous zero is a text.  A whole number that does
not fit into 64 bits but fits into 128 has no meaning; beyond that it is read as a floating-point
number.
-/

namespace TokenAtlas.Yaml

/-- The value of a digit in a base of at most sixteen. -/
def digitIn? (base : Nat) (c : Char) : Option Nat :=
  (Text.hexDigit? c).bind fun d => if d < base then some d else none

/-- The number that a row of digits stands for; there must be one at least. -/
def readDigits? (base : Nat) (cs : List Char) : Option Nat :=
  let rec go (acc : Nat) : List Char → Option Nat
    | [] => some acc
    | c :: rest =>
      match digitIn? base c with
      | some d => go (acc * base + d) rest
      | none => none
  if cs.isEmpty then none else go 0 cs

/-- The base that the start of a number announces, and the digits after it. -/
def basePart : List Char → Nat × List Char
  | '0' :: 'x' :: rest => (16, rest)
  | '0' :: 'o' :: rest => (8, rest)
  | '0' :: 'b' :: rest => (2, rest)
  | cs => (10, cs)

/-- A text without one sign in front. -/
def dropSign : List Char → List Char
  | '-' :: rest => rest
  | '+' :: rest => rest
  | cs => cs

/-- Whether a text is a row of digits with a superfluous zero in front, after an optional sign. -/
def hasLeadingZero (cs : List Char) : Bool :=
  match dropSign cs with
  | '0' :: c :: rest => (c :: rest).all Char.isDigit
  | _ => false

/-- The whole number that a text is, of any size. -/
def readInt? (cs : List Char) : Option Int :=
  if hasLeadingZero cs then none
  else
    match cs with
    | '-' :: rest =>
      let (base, ds) := basePart rest
      (readDigits? base ds).map fun n => -(n : Int)
    | '+' :: rest =>
      let (base, ds) := basePart rest
      (readDigits? base ds).map Int.ofNat
    | cs =>
      let (base, ds) := basePart cs
      (readDigits? base ds).map Int.ofNat

/-- What a text stands for that is written as a whole number. -/
inductive WholeNumber
  /-- It fits into 64 bits, unsigned or signed. -/
  | fits (n : Int)
  /-- It fits into 128 bits only. -/
  | wide
  /-- It is no whole number, or one that is greater still. -/
  | other

/-- The whole number that a text stands for. -/
def wholeNumber (cs : List Char) : WholeNumber :=
  match readInt? cs with
  | none => .other
  | some n =>
    if Int64.minValue.toInt ≤ n ∧ n < UInt64.size then .fits n
    else if -(Nat.pow 2 127 : Int) ≤ n ∧ n < Nat.pow 2 128 then .wide
    else .other

/-- The infinity with a sign. -/
def infinity (negative : Bool) : Binary64 := .ofMagnitude negative Binary64.infinityMagnitude

/-- A NaN. -/
def nan : Binary64 := .ofMagnitude false (Binary64.infinityMagnitude + Nat.pow 2 51)

/-- The floating-point number that a text stands for.  One that is too great is none. -/
def readFloat? (s : String) : Option Binary64 :=
  match s with
  | ".inf" | ".Inf" | ".INF" | "+.inf" | "+.Inf" | "+.INF" => some (infinity false)
  | "-.inf" | "-.Inf" | "-.INF" => some (infinity true)
  | ".nan" | ".NaN" | ".NAN" => some nan
  | s => (Decimal.read? s.toList).filter (·.isFinite)

/-- Whether a text stands for null. -/
def isNull (s : String) : Bool := s ∈ ["null", "Null", "NULL", "~"]

/-- The truth value that a text stands for. -/
def readBool? (s : String) : Option Bool :=
  if s ∈ ["true", "True", "TRUE"] then some true
  else if s ∈ ["false", "False", "FALSE"] then some false
  else none

/-- What a plain scalar stands for. -/
def plainContent? (s : String) : Option Content :=
  if s.isEmpty || isNull s then some .null
  else
    match readBool? s with
    | some b => some (.bool b)
    | none =>
      match wholeNumber s.toList with
      | .fits n => some (.number (.int n))
      | .wide => none
      | .other =>
        -- A superfluous zero makes a row of digits a text, but not a number with a point.
        if hasLeadingZero s.toList then some (.text s)
        else
          match readFloat? s with
          | some x => some (.number (.float x))
          | none => some (.text s)

/-- What a scalar with a tag stands for. -/
def taggedContent? (tag s : String) : Option Content :=
  match tag with
  | "tag:yaml.org,2002:bool" => (readBool? s).map .bool
  | "tag:yaml.org,2002:int" =>
    match wholeNumber s.toList with
    | .fits n => some (.number (.int n))
    | _ => none
  | "tag:yaml.org,2002:float" => (readFloat? s).map fun x => .number (.float x)
  | "tag:yaml.org,2002:null" => if isNull s then some .null else none
  | _ => some (.text s)

/-- Whether a tag is one of a document's own. -/
def isLocalTag (tag : Option String) : Bool := tag.any fun t => startsWith '!' t.toList

/-- What a scalar stands for. -/
def scalarContent? (tag : Option String) (s : String) (plain : Bool) : Option Content :=
  match tag with
  | some t => if isLocalTag tag then none else taggedContent? t s
  | none => if plain then plainContent? s else some (.text s)

end TokenAtlas.Yaml
