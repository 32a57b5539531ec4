import TokenAtlas.Fault
import TokenAtlas.Pattern.Search
import TokenAtlas.Pattern.Size

/-!
# Recognizers

A recognizer is a map that knows the tokens in which its pattern occurs, and nothing more of them.
-/

namespace TokenAtlas

/-- A named pattern that knows the tokens in which it occurs. -/
structure Recognizer where
  name : String
  /-- The pattern as it was written. -/
  source : String
  pattern : Pattern

namespace Recognizer

/-- The recognizer for a pattern, if that is accepted. -/
def ofSource [Pattern.SizeCheck] (name source : String) : Except BuildError Recognizer :=
  match Pattern.parse? source with
  | some pattern => .ok { name, source, pattern }
  | none => .error (.invalidPattern name)

/-- Whether the pattern occurs in a token. -/
def contains (m : Recognizer) (token : String) : Bool := m.pattern.occursIn token

/-- The tokens with a letter of ASCII. -/
def letter : Recognizer where
  name := "letter"
  source := "[a-zA-Z]"
  pattern := .set (.ascii [('A', 'Z'), ('a', 'z')])

/-- The tokens with a digit of ASCII or a decimal separator. -/
def digit : Recognizer where
  name := "digit"
  source := "[0-9.,]"
  pattern := .set (.ascii [('0', '9'), ('.', '.'), (',', ',')])

/-- The tokens that begin with a backslash. -/
def command : Recognizer where
  name := "command"
  source := "^\\\\"
  pattern := .seq (.anchor .textStart) (.char '\\')

end Recognizer

end TokenAtlas
