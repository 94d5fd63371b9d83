import Std.Time
import TemplateScan.CommandLine.Invocation

/-! # The command line

Reads the files and the environment, works out what the invocation comes to, and prints it.
-/

namespace TemplateScan

namespace CommandLine

/-- The words of the system for an error with a number. -/
def systemWords (detail : String) (number : UInt32) : String :=
  detail ++ " (os error " ++ toString number ++ ")"

/-- Why a file could not be read. -/
def readError (error : IO.Error) : ReadError :=
  match error with
  | .noFileOrDirectory _ number detail => .notFound (systemWords detail number)
  | .permissionDenied _ number detail => .permissionDenied (systemWords detail number)
  | .inappropriateType _ number detail => .other (systemWords detail number)
  | .invalidArgument _ number detail => .other (systemWords detail number)
  | .resourceExhausted _ number detail => .other (systemWords detail number)
  | .otherError number detail => .other (systemWords detail number)
  | other => .other (toString other)

/-- Reads a file. -/
def readSource (path : String) : IO (Except ReadError Source) := do
  try
    let content ← IO.FS.readBinFile path
    if h : content.IsValidUTF8 then
      return .ok ⟨content, h⟩
    else
      return .error (.invalidData "stream did not contain valid UTF-8")
  catch error =>
    return .error (readError error)

/-- Reads the files that the arguments name. -/
def readSources (arguments : List String) : IO FileReader := do
  let paths := match Options.parse arguments with
    | .ok options => options.paths
    | .error _ => []
  let sources ← paths.mapM fun path => do return (path, ← readSource path)
  return fun path => (sources.lookup path).getD (.error (.notFound path))

/-- The environment of the process. -/
def environment : IO Environment := do
  return {
    filter := ← IO.getEnv "UTL_LOG"
    fallbackFilter := ← IO.getEnv "RUST_LOG"
    tree := ← IO.getEnv "UTL_LOG_TREE" }

/-- The time, as log lines start with it. -/
def currentTime : IO String := do
  let now := Std.Time.DateTime.ofTimestamp (← Std.Time.Timestamp.now) .UTC
  return now.format "uuuu-MM-dd'T'HH:mm:ss.SSSSSS'Z'"

/-- Prints what an invocation comes to. -/
def printStatus (status : Checked ExitStatus) : IO UInt32 := do
  match status with
  | .ok status =>
      IO.print status.stdout
      IO.eprint status.stderr
      return status.code.toUInt32
  | .error fault =>
      IO.eprintln (fault.message?.getD "text cut at a misplaced span")
      return 101

end CommandLine

end TemplateScan

open TemplateScan.CommandLine in
/-- Runs the program on its arguments. -/
def main (arguments : List String) : IO UInt32 := do
  let read ← readSources arguments
  printStatus (TemplateScan.Invocation.run arguments (← environment) read (← currentTime))
