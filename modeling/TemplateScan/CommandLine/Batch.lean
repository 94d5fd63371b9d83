import TemplateScan.CommandLine.Options
import TemplateScan.Log.Event
import TemplateScan.Report.Segments
import TemplateScan.Report.Tokens

/-! # Batches of files

Each file of an invocation is read and listed on its own. Files may be shared out among workers,
which finish in any order; each result goes into the slot of its own file, so results are always in
the order of the files.
-/

namespace TemplateScan

/-- A way to read files: a source for each path, or the reason why there is none. -/
abbrev FileReader := String → Except ReadError Source

/-- What a file comes to: its listing or its failure, and its part of the log. -/
structure FileResult where
  outcome : Except Failure String
  log : List LogEntry := []

namespace Batch

/-- Lists the tokens of a source. -/
def listTokens (path : String) (source : Source) (offered : Offered) : Checked FileResult := do
  let stream ← source.tokenStream offered
  return ⟨.ok (Report.tokenListing path stream.tokens.toList),
    stream.events.toList.map LogEntry.event⟩

/-- Lists the segments of a source. -/
def listSegments (path : String) (source : Source) : Checked FileResult := do
  let segmentation ← source.segmentation
  return ⟨← Report.ofOutcome path source segmentation.outcome,
    LogEntry.bracket source.size segmentation.events⟩

/-- Reads and lists one file. -/
def process (options : Options) (read : FileReader) (path : String) : Checked FileResult :=
  match read path with
  | .error cause => .ok { outcome := .error (.read path cause) }
  | .ok source =>
      match options.command with
      | .tokens => listTokens path source options.offered
      | .segments => listSegments path source

/-- Processes the files one after the other. -/
def runSequential (options : Options) (read : FileReader) : Checked (List FileResult) :=
  options.paths.mapM (process options read)

/-- The slots of the results after workers have finished the files with the given numbers, in this
order. -/
def fillSlots (work : String → Checked FileResult) (paths : List String) (finished : List Nat) :
    List (Option (Checked FileResult)) :=
  finished.foldl
    (fun slots number => slots.set number (paths[number]?.map work))
    (paths.map fun _ => none)

/-- Shares the files out among workers that finish in the given order, and collects the slots. What
no worker has finished is processed when the slots are collected. -/
def runParallel (options : Options) (read : FileReader) (finished : List Nat) :
    Checked (List FileResult) :=
  let work := process options read
  ((fillSlots work options.paths finished).zip options.paths).mapM fun (slot, path) =>
    slot.getD (work path)

/-- Processes the files of an invocation. -/
def run (options : Options) (read : FileReader) (finished : List Nat) :
    Checked (List FileResult) :=
  if options.isParallel then runParallel options read finished else runSequential options read

/-- The log of a whole batch. -/
def log (options : Options) (results : List FileResult) : List LogEntry :=
  (if options.isParallel then
    [.event (.filesInParallel options.paths.length options.jobs)]
  else
    []) ++ results.flatMap FileResult.log

end Batch

end TemplateScan
