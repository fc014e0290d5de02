import WidgetLocator.CommandLine.Basic

/-! The program: it reads the files that the arguments name, runs the command and prints what it
leaves behind. -/

namespace WidgetLocator.CommandLine

/-- The number of an error, which some calls of the system negate. -/
def errorNumber (code : UInt32) : Nat := min code.toNat (0 - code).toNat

def otherError (code : UInt32) (details : String) : FileError :=
  .other s!"{details.capitalize} (os error {errorNumber code})"

def fileError : IO.Error → FileError
  | .noFileOrDirectory .. => .notFound
  | .inappropriateType _ code _ => if errorNumber code = 20 then .notADirectory else .isADirectory
  | .invalidArgument _ code details => if errorNumber code = 36 then .nameTooLong else otherError code details
  | .permissionDenied _ code details => otherError code details
  | .userError _ => .notText
  | e => .other (toString e)

def readFile (path : String) : IO (Except FileError String) :=
  try return .ok (← IO.FS.readFile path) catch e => return .error (fileError e)

def runOnSystem (arguments : List String) : IO UInt32 := do
  let paths := match Options.ofArguments arguments with
    | .ok o => filePaths o
    | .error _ => []
  let texts ← paths.mapM fun path => return (path, ← readFile path)
  let outcome := run (fun path => (texts.lookup path).getD (.error .notFound)) arguments
  IO.print outcome.output
  IO.eprint outcome.errors
  return outcome.code.toUInt32

end WidgetLocator.CommandLine

def main (arguments : List String) : IO UInt32 := WidgetLocator.CommandLine.runOnSystem arguments
