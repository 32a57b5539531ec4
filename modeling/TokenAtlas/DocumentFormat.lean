/-!
# Formats of documents

The format of a document follows from the path of its file, and there from the last component alone:
a file whose extension is `json`, in any case, holds JSON, and every other file holds YAML.
-/

namespace TokenAtlas

/-- The formats of documents. -/
inductive DocumentFormat
  | json
  | yaml
  deriving DecidableEq, Repr

namespace DocumentFormat

/-- The parts of a text between the occurrences of a character. -/
def splitBy (c : Char) : List Char → List (List Char)
  | [] => [[]]
  | x :: rest =>
    if x = c then [] :: splitBy c rest
    else match splitBy c rest with
      | [] => [[x]]
      | part :: parts => (x :: part) :: parts

/-- The components of a path.  Empty ones and single dots do not count. -/
def components (path : String) : List (List Char) :=
  (splitBy '/' path.toList).filter fun c => c ≠ [] ∧ c ≠ ['.']

/-- The extension of a component of a path: what follows its last dot, unless nothing stands before
    that dot. -/
def extension? (component : List Char) : Option (List Char) :=
  if component = ['.', '.'] then none
  else
    match splitBy '.' component with
    | [] | [_] => none
    | [[], _] => none
    | parts => parts.getLast?

/-- The format of the file with a path. -/
def ofPath (path : String) : DocumentFormat :=
  match (components path).getLast?.bind extension? with
  | some e => if e.map Char.toLower = ['j', 's', 'o', 'n'] then .json else .yaml
  | none => .yaml

end DocumentFormat

end TokenAtlas
