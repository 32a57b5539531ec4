import TokenAtlas.Json.Printer
import TokenAtlas.Text.Quoted

/-!
# Arguments

An `Argument` is a scalar that an entry is given: the value of an attribute of a character, or an
argument that is bound to a macro.  `Argument.ofJson?` takes one from a JSON value, which must be a
scalar, and a whole number must fit into 64 bits with its sign.
-/

namespace TokenAtlas

/-- A scalar. -/
inductive Argument
  | null
  | bool (b : Bool)
  | int (n : Int64)
  | float (x : Binary64)
  | text (s : String)

namespace Argument

/-- The five kinds of arguments. -/
inductive Kind
  | null
  | boolean
  | integer
  | float
  | string
  deriving DecidableEq, Repr

/-- The word for a kind of argument. -/
def Kind.name : Kind → String
  | .null => "null"
  | .boolean => "boolean"
  | .integer => "integer"
  | .float => "float"
  | .string => "string"

/-- The kind of an argument. -/
def kind : Argument → Kind
  | .null => .null
  | .bool _ => .boolean
  | .int _ => .integer
  | .float _ => .float
  | .text _ => .string

/-- Equality of arguments.  Kinds must agree, and floating-point numbers are compared as numbers, so
    NaN differs from itself. -/
def beq : Argument → Argument → Bool
  | .null, .null => true
  | .bool a, .bool b => a == b
  | .int m, .int n => m == n
  | .float x, .float y => x.numEq y
  | .text s, .text t => s == t
  | _, _ => false

instance : BEq Argument := ⟨beq⟩

/-- Why a JSON value is not an argument. -/
inductive Rejection
  /-- The value is an array or an object. -/
  | notScalar (found : Json.Kind)
  /-- The whole number needs more than 64 bits. -/
  | tooWide (n : Int)
  deriving DecidableEq

/-- The wording of a rejection. -/
def Rejection.message : Rejection → String
  | .notScalar found => "expected a scalar, found " ++ found.name
  | .tooWide n =>
    "integer " ++ String.ofList (Json.renderInt n) ++ " does not fit in 64 bits"

/-- The argument that a JSON value stands for. -/
def ofJson? : Json → Except Rejection Argument
  | .null => .ok .null
  | .bool b => .ok (.bool b)
  | .number (.int n) =>
    if Int64.minValue.toInt ≤ n ∧ n ≤ Int64.maxValue.toInt then .ok (.int (Int64.ofInt n))
    else .error (.tooWide n)
  | .number (.float x) => .ok (.float x)
  | .string s => .ok (.text s)
  | j => .error (.notScalar j.kind)

/-- The JSON value of an argument. -/
def toJson : Argument → Json
  | .null => .null
  | .bool b => .bool b
  | .int n => .number (.int n.toInt)
  | .float x => .number (.float x)
  | .text s => .string s

/-- How listings show a floating-point number. -/
def describeFloat (x : Binary64) : String :=
  if x.isNaN then "NaN"
  else if x.isInfinite then if x.isNegative then "-inf" else "inf"
  else String.ofList (Decimal.Layout.plain.render x)

/-- How listings show an argument. -/
def describe : Argument → String
  | .null => "null"
  | .bool b => if b then "true" else "false"
  | .int n => String.ofList (Json.renderInt n.toInt)
  | .float x => describeFloat x
  | .text s => Text.quoted s

/-- Every argument is read back from its JSON value. -/
theorem ofJson?_toJson (a : Argument) : ofJson? a.toJson = .ok a := by
  cases a with
  | int n =>
    simp only [toJson, ofJson?]
    rw [if_pos ⟨n.minValue_le_toInt, n.toInt_le⟩, Int64.ofInt_toInt]
  | _ => rfl

end Argument

end TokenAtlas
