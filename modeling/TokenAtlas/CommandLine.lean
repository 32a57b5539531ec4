import TokenAtlas.Document

/-!
# The command line

```
list <definitions>                lists the maps of a document
lookup <definitions> <token>...   tells what the maps know of tokens
```

`Request.ofArgs` reads the arguments, and `Request.answer` gives the answer to a request when the
file that it names has been read.  Arguments that begin with a hyphen are options, up to two hyphens
that stand alone; one hyphen that stands alone is a value.
-/

namespace TokenAtlas.CommandLine

/-- The subcommands. -/
inductive Command
  | list
  | lookup
  deriving DecidableEq, Repr

/-- What help may be asked on. -/
inductive Topic
  /-- The program as a whole. -/
  | program
  /-- One of the subcommands. -/
  | command (command : Command)
  /-- The way to ask for help, which looks like a subcommand too. -/
  | help
  deriving DecidableEq, Repr

/-- What the program is asked for. -/
inductive Request
  /-- Its version. -/
  | version
  /-- How something is used. -/
  | help (topic : Topic)
  /-- The maps of a document. -/
  | list (path : String)
  /-- What the maps of a document know of tokens. -/
  | lookup (path : String) (tokens : List String)
  /-- The arguments ask for nothing. -/
  | invalid
  deriving DecidableEq, Repr

/-- What the program writes, and the code that it ends with. -/
structure Answer where
  code : Nat
  output : String := ""
  errors : String := ""
  deriving DecidableEq, Repr

namespace Command

/-- The subcommand with a name. -/
def ofName? : String → Option Command
  | "list" => some .list
  | "lookup" => some .lookup
  | _ => none

/-- How many values may follow the name of a subcommand, if that is limited. -/
def capacity : Command → Option Nat
  | .list => some 1
  | .lookup => none

/-- The request that a subcommand makes with its values. -/
def request : Command → List String → Request
  | .list, [path] => .list path
  | .lookup, path :: token :: tokens => .lookup path (token :: tokens)
  | _, _ => .invalid

end Command

/-- Whether an argument asks for help. -/
def asksForHelp (arg : String) : Bool := arg == "--help" || arg.toList.take 2 == ['-', 'h']

/-- Whether an argument asks for the version. -/
def asksForVersion (arg : String) : Bool := arg == "--version" || arg.toList.take 2 == ['-', 'V']

/-- Whether an argument is an option. -/
def isOption (arg : String) : Bool :=
  match arg.toList with
  | '-' :: _ :: _ => true
  | _ => false

/-- What follows the name of a subcommand. -/
inductive Values
  | all (values : List String)
  | help
  | invalid
  deriving DecidableEq, Repr

namespace Values

/-- Puts a value in front of others. -/
def cons (value : String) : Values → Values
  | .all values => .all (value :: values)
  | .help => .help
  | .invalid => .invalid

/-- Reads values, at most as many as there is room for. -/
def read (room : Option Nat) : List String → Values
  | [] => .all []
  | arg :: rest =>
    -- From here on nothing is an option any more.
    if arg = "--" then
      if room.any (· < rest.length) then .invalid else .all rest
    else if asksForHelp arg then .help
    else if isOption arg || room = some 0 then .invalid
    else cons arg (read (room.map (· - 1)) rest)

end Values

/-- The request that a subcommand makes with the arguments after its name. -/
def Command.ofArgs (command : Command) (args : List String) : Request :=
  match Values.read command.capacity args with
  | .all values => command.request values
  | .help => .help (.command command)
  | .invalid => .invalid

/-- The topic with a name. -/
def Topic.ofName? (name : String) : Option Topic :=
  if name = "help" then some .help else (Command.ofName? name).map .command

namespace Request

/-- The request that asks for help on what is named, or on the program.  No subcommand has
    subcommands of its own, so there is one name at most. -/
def helpOn : List String → Request
  | [] => .help .program
  | [name] =>
    match Topic.ofName? name with
    | some topic => .help topic
    | none => .invalid
  | _ => .invalid

/-- The request that arguments make. -/
def ofArgs : List String → Request
  | [] => .invalid
  | arg :: rest =>
    if asksForVersion arg then .version
    else if asksForHelp arg then .help .program
    else if arg = "help" then helpOn rest
    else
      match Command.ofName? arg with
      | some command => command.ofArgs rest
      | none => .invalid

/-- The path of the file that a request is about. -/
def path? : Request → Option String
  | .list path => some path
  | .lookup path _ => some path
  | _ => none

end Request

/-- The version of the program. -/
def versionText : String := "texmap 0.1.0\n"

/-- How something is used, line by line. -/
def helpLines : Topic → List String
  | .program => ["A tool for inspecting symbol map definitions",
      "",
      "Usage: texmap <COMMAND>",
      "",
      "Commands:",
      "  list    List the maps in a definitions file",
      "  lookup  Resolve tokens against the maps, in definition order",
      "  help    Print this message or the help of the given subcommand(s)",
      "",
      "Options:",
      "  -h, --help     Print help",
      "  -V, --version  Print version"]
  | .command .list => ["List the maps in a definitions file",
      "",
      "Usage: texmap list <definitions>",
      "",
      "Arguments:",
      "  <definitions>  Path to the definitions file (YAML or JSON)",
      "",
      "Options:",
      "  -h, --help  Print help"]
  | .command .lookup => ["Resolve tokens against the maps, in definition order",
      "",
      "Usage: texmap lookup <definitions> <tokens>...",
      "",
      "Arguments:",
      "  <definitions>  Path to the definitions file (YAML or JSON)",
      "  <tokens>...    Tokens to resolve",
      "",
      "Options:",
      "  -h, --help  Print help"]
  | .help => ["Print this message or the help of the given subcommand(s)",
      "",
      "Usage: texmap help [COMMAND]...",
      "",
      "Arguments:",
      "  [COMMAND]...  Print help for the subcommand(s)"]

/-- How something is used. -/
def helpText (topic : Topic) : String := String.join ((helpLines topic).map (· ++ "\n"))

/-- The line for a token: what the first map that knows it knows of it. -/
def tokenLine (a : Atlas) (token : String) : Except Json.Kind String :=
  match a.resolve? token with
  | some r => r.text.map fun text => token ++ ": " ++ text ++ "\n"
  | none => .ok (token ++ ": unrecognized\n")

/-- Writes the lines for tokens, each after what has been written before.  A token whose resolution
    has no text ends the program, and the lines before it stay written.  What a writer of texts
    would say in detail is left out after the colon. -/
def report (a : Atlas) (written : String) : List String → Answer
  | [] => { code := 0, output := written }
  | token :: rest =>
    match tokenLine a token with
    | .ok line => report a (written ++ line) rest
    | .error _ => { code := 1, output := written, errors := "Error formatting entry: \n" }

/-- Writes the listing of an atlas.  A column that cannot be padded breaks the program off. -/
def listMaps (a : Atlas) : Answer :=
  match a.listing? with
  | some text => { code := 0, output := text }
  | none => { code := 101, errors := "Formatting argument out of range\n" }

/-- The answer that an atlas gives, if the file holds one. -/
def answerFrom [Pattern.SizeCheck] (path : String) (bytes : Except ReadFailure ByteArray)
    (answer : Atlas → Answer) : Answer :=
  match (Document.ofFile path bytes).bind Document.load with
  | .ok a => answer a
  | .error e => { code := 1, errors := "Error loading " ++ path ++ ": " ++ e.message ++ "\n" }

/-- The answer to a request, given what reading the file at its path has led to. -/
def Request.answer [Pattern.SizeCheck] (request : Request)
    (file : String → Except ReadFailure ByteArray) : Answer :=
  match request with
  | .version => { code := 0, output := versionText }
  | .help topic => { code := 0, output := helpText topic }
  | .list path => answerFrom path (file path) listMaps
  | .lookup path tokens => answerFrom path (file path) fun a => report a "" tokens
  | .invalid => { code := 2, errors := helpText .program }

end TokenAtlas.CommandLine
