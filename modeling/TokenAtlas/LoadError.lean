import TokenAtlas.Fault

/-!
# Why a document cannot be loaded

A `ReadFailure` is why a file has no text, and a `LoadError` is why a document gives no atlas.
-/

namespace TokenAtlas

/-- Why a file has no text. -/
inductive ReadFailure
  /-- There is no such file. -/
  | missing
  | denied
  /-- A component of the path but the last is no directory. -/
  | throughFile
  | directory
  | nameTooLong
  /-- The bytes of the file are not UTF-8. -/
  | notUnicode
  /-- What the system says of any other failure. -/
  | other (description : String)
  deriving DecidableEq

/-- The wording of a failure, with the number that the system has for it. -/
def ReadFailure.message : ReadFailure → String
  | .missing => "No such file or directory (os error 2)"
  | .denied => "Permission denied (os error 13)"
  | .throughFile => "Not a directory (os error 20)"
  | .directory => "Is a directory (os error 21)"
  | .nameTooLong => "File name too long (os error 36)"
  | .notUnicode => "stream did not contain valid UTF-8"
  | .other description => description

/-- Why a document gives no atlas. -/
inductive LoadError
  /-- Its file has no text. -/
  | file (failure : ReadFailure)
  /-- Its text does not describe maps. -/
  | unreadable
  /-- A map cannot be built or taken up. -/
  | build (cause : BuildError)
  deriving DecidableEq

/-- The wording of an error.  What a reader of texts would say in detail is left out after the
    colon. -/
def LoadError.message : LoadError → String
  | .file failure => "IO error: " ++ failure.message
  | .unreadable => "Parse error: "
  | .build cause => "Table error: " ++ cause.message

end TokenAtlas
