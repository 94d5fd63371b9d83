import TemplateScan.CommandLine.Batch
import TemplateScan.Log.Layout

/-! # Invocations

What an invocation prints and how it exits, as a function of its arguments, its environment and the
files. Listings go to the standard output; log lines, then one line for each failed file go to the
standard error. The exit code is one where anything failed.
-/

namespace TemplateScan

/-- How the program is used. -/
def usage : String :=
  "Usage: utl <command> <file>... [options]\n" ++
  "\n" ++
  "Commands:\n" ++
  "  tokens      Print the external tokens the scanner recognizes\n" ++
  "  segments    Print content, comment and directive segments\n" ++
  "\n" ++
  "Options:\n" ++
  "  --content-only    Offer only content tokens (tokens)\n" ++
  "  --comments-only   Offer only block comments (tokens)\n" ++
  "  --jobs=<n>        Worker threads for multiple files (1 = sequential)\n" ++
  "  -v, --verbose     Debug logging when UTL_LOG is not set\n"

/-- The filter of a verbose invocation that is given none. -/
def verboseFilter : String :=
  "utl_scanner=debug,utl_template=debug,utlc=debug"

/-- The part of the environment that is looked at. -/
structure Environment where
  /-- The text of the log filter. -/
  filter : Option String := none
  /-- The text of the log filter where there is no other. -/
  fallbackFilter : Option String := none
  /-- Is the log to be a tree? Anything but a zero says so. -/
  tree : Option String := none
deriving DecidableEq, Repr

namespace Environment

/-- The text of the log filter of an invocation, if it keeps a log. -/
def filterText? (environment : Environment) (verbose : Bool) : Option String :=
  (environment.filter.or environment.fallbackFilter).or
    (if verbose then some verboseFilter else none)

/-- How an invocation writes its log, whose lines start with the given time. -/
def layout (environment : Environment) (time : String) : LogLayout :=
  if environment.tree.any (· != "0") then .tree else .lines time

end Environment

/-- What an invocation comes to. -/
structure ExitStatus where
  code : Nat := 0
  stdout : String := ""
  stderr : String := ""
deriving DecidableEq, Repr

namespace Invocation

/-- Do the arguments ask how the program is used? -/
def asksForUsage : List String → Bool
  | [] => true
  | argument :: _ => argument == "help" || argument == "--help" || argument == "-h"

/-- The line of a failure. -/
def failureLine (failure : Failure) : String :=
  "error: " ++ failure.message ++ "\n"

/-- The listing of a file, empty where it failed. -/
def listing (result : FileResult) : String :=
  match result.outcome with
  | .ok listing => listing
  | .error _ => ""

/-- The line of a failed file, empty where it did not fail. -/
def complaint (result : FileResult) : String :=
  match result.outcome with
  | .ok _ => ""
  | .error failure => failureLine failure

/-- Has a file failed? -/
def failed (result : FileResult) : Bool :=
  match result.outcome with
  | .ok _ => false
  | .error _ => true

/-- The text of the log of an invocation, empty where it keeps none. What is said about the filter
comes first. -/
def logText (environment : Environment) (time : String) (options : Options)
    (results : List FileResult) : Checked String :=
  match environment.filterText? options.verbose with
  | none => return ""
  | some text => do
      let (filter, complaints) ← LogFilter.ofText text
      return complaints ++ (environment.layout time).render filter (Batch.log options results)

/-- What the options of an invocation come to. -/
def execute (options : Options) (environment : Environment) (read : FileReader) (time : String) :
    Checked ExitStatus := do
  let results ← Batch.run options read (List.range options.paths.length)
  let log ← logText environment time options results
  return {
    code := if results.any failed then 1 else 0
    stdout := String.join (results.map listing)
    stderr := log ++ String.join (results.map complaint) }

/-- What the arguments of an invocation come to. -/
def run (arguments : List String) (environment : Environment) (read : FileReader)
    (time : String) : Checked ExitStatus :=
  if asksForUsage arguments then
    .ok { stdout := usage }
  else
    match Options.parse arguments with
    | .error error =>
        .ok { code := 1, stderr := failureLine (.usage error.message) ++ "\n" ++ usage }
    | .ok options => execute options environment read time

end Invocation

end TemplateScan
