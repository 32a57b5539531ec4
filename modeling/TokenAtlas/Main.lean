import TokenAtlas.CommandLine

/-!
# The program

Reads the file that the command line names, and writes the answer.
-/

namespace TokenAtlas

/-- The number that the system has for an error.  Some calls give it with a minus sign. -/
def errorNumber (code : UInt32) : UInt32 := if code < 0x80000000 then code else -code

/-- The failure that an error of the system stands for. -/
def ReadFailure.ofError (e : IO.Error) : ReadFailure :=
  match e with
  | .noFileOrDirectory .. => .missing
  | .permissionDenied .. => .denied
  | .inappropriateType _ code _ => if errorNumber code = 20 then .throughFile else .directory
  | .invalidArgument _ code _ =>
    if errorNumber code = 36 then .nameTooLong else .other (toString e)
  | e => .other (toString e)

/-- Reads the file at a path. -/
def readBytes (path : String) : IO (Except ReadFailure ByteArray) := do
  try return .ok (← IO.FS.readBinFile path)
  catch e => return .error (.ofError e)

end TokenAtlas

open TokenAtlas in
/-- Answers the request that the arguments make.  The sizes of patterns are counted by
    `Pattern.SizeCheck.standIn`. -/
def main (args : List String) : IO UInt32 := do
  let request := CommandLine.Request.ofArgs args
  let bytes ← match request.path? with
    | some path => readBytes path
    | none => pure (.error .missing)
  let answer := request.answer fun _ => bytes
  IO.print answer.output
  IO.eprint answer.errors
  return answer.code.toUInt32
