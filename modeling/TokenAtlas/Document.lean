import TokenAtlas.Document.Json
import TokenAtlas.Document.Yaml
import TokenAtlas.DocumentFormat
import TokenAtlas.LoadError

/-!
# Documents

A `Document` is a text in a format that defines maps.  `Document.definitions` reads the definitions,
all or none, and `Document.load` builds their maps in the order of the document and collects them in
an atlas.
-/

namespace TokenAtlas

/-- A text that defines maps. -/
structure Document where
  format : DocumentFormat
  text : String
  deriving DecidableEq

namespace Document

/-- The document in a file, whose format follows from its path. -/
def ofFile (path : String) (bytes : Except ReadFailure ByteArray) : Except LoadError Document :=
  match bytes with
  | .error failure => .error (.file failure)
  | .ok bytes =>
    match String.fromUTF8? bytes with
    | some text => .ok ⟨.ofPath path, text⟩
    | none => .error (.file .notUnicode)

/-- The contents of the items of a document. -/
def items? (d : Document) : Option (List Content) :=
  match d.format with
  | .json => jsonItems? d.text
  | .yaml => yamlItems? d.text

/-- The definitions of a document. -/
def definitions (d : Document) : Except LoadError (List Definition) :=
  match d.items?.bind (·.mapM Definition.ofContent?) with
  | some ds => .ok ds
  | none => .error .unreadable

/-- Builds the map of a definition and appends it to an atlas. -/
def add [Pattern.SizeCheck] (a : Atlas) (d : Definition) : Except BuildError Atlas :=
  match d.build with
  | .ok m => a.push m
  | .error e => .error e

/-- The atlas of the maps that definitions describe, up to the first that cannot be added. -/
def build [Pattern.SizeCheck] (ds : List Definition) : Except BuildError Atlas :=
  ds.foldlM add .empty

/-- The atlas that a document describes. -/
def load [Pattern.SizeCheck] (d : Document) : Except LoadError Atlas :=
  match d.definitions with
  | .error e => .error e
  | .ok ds =>
    match build ds with
    | .ok a => .ok a
    | .error e => .error (.build e)

end Document

end TokenAtlas
