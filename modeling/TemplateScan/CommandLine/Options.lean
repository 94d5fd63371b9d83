import TemplateScan.Text.Unsigned
import TemplateScan.Token

/-! # Options

The arguments of an invocation: a command, files, and flags, which may stand anywhere among the
files. The first argument that offends decides what is said; only if none does, the arguments are
looked at as a whole.
-/

namespace TemplateScan

/-- What is listed for each file. -/
inductive Command where
  | tokens
  | segments
deriving DecidableEq, Repr

namespace Command

/-- The word by which a command is asked for. -/
def name : Command → String
  | .tokens => "tokens"
  | .segments => "segments"

/-- The command that a word asks for. -/
def ofName? (name : String) : Option Command :=
  if name = "tokens" then some .tokens
  else if name = "segments" then some .segments
  else none

end Command

/-- Everything that an invocation asks for. -/
structure Options where
  command : Command := .tokens
  paths : List String := []
  /-- The kinds offered when tokens are listed. -/
  offered : Offered := .everything
  /-- The number of workers, where one is asked for. -/
  jobs : Option Nat := none
  verbose : Bool := false
deriving DecidableEq, Repr

/-- Are files shared out among workers? -/
def Options.isParallel (options : Options) : Bool :=
  1 < options.paths.length && options.jobs != some 1

/-- Why arguments are rejected. -/
inductive UsageError where
  | missingCommand
  | unknownCommand (name : String)
  /-- Two flags restrict the offered kinds differently. -/
  | conflictingFlags (first second : String)
  | invalidJobs (value : String)
  | unknownOption (argument : String)
  /-- A flag restricts the offered kinds of a command that offers none. -/
  | misplacedFlag (flag : String)
  | noInput
deriving DecidableEq, Repr

/-- What is said about rejected arguments. -/
def UsageError.message : UsageError → String
  | .missingCommand => "missing command"
  | .unknownCommand name => "unknown command '" ++ name ++ "'"
  | .conflictingFlags first second => first ++ " and " ++ second ++ " cannot be combined"
  | .invalidJobs value => "invalid job count '" ++ value ++ "' (expected a positive integer)"
  | .unknownOption argument => "unknown option '" ++ argument ++ "'"
  | .misplacedFlag flag => flag ++ " only applies to the tokens command"
  | .noInput => "no input files"

/-! ### Single arguments -/

/-- The number of workers that a text asks for: a positive one. -/
def jobCount? (text : List Char) : Option Nat :=
  (unsigned? text).filter (0 < ·)

/-- What stands in front of the number of workers. -/
def jobsFlag : List Char :=
  "--jobs=".toList

/-- What an argument behind the command means. -/
inductive Argument where
  /-- Only the given kind is to be offered. -/
  | restrict (kind : TokenKind)
  | jobs (value : String)
  | verbose
  | unknown
  | path
deriving DecidableEq, Repr

/-- The flag that restricts the offered kinds to one. -/
def restrictionFlag : TokenKind → String
  | .content => "--content-only"
  | .comment => "--comments-only"

/-- What an argument behind the command means; what starts with a dash is a flag. -/
def Argument.ofString (argument : String) : Argument :=
  if argument = restrictionFlag .content then .restrict .content
  else if argument = restrictionFlag .comment then .restrict .comment
  else if jobsFlag.isPrefixOf argument.toList then
    .jobs (String.ofList (argument.toList.drop jobsFlag.length))
  else if argument = "--verbose" ∨ argument = "-v" then .verbose
  else if argument.toList.head? = some '-' then .unknown
  else .path

/-! ### All arguments -/

/-- The options so far, and the kind that they are restricted to. -/
structure OptionsReader where
  options : Options
  restriction : Option TokenKind := none
deriving DecidableEq, Repr

/-- Takes one argument into account. -/
def OptionsReader.take (reader : OptionsReader) (argument : String) :
    Except UsageError OptionsReader :=
  let options := reader.options
  match Argument.ofString argument with
  | .restrict kind =>
      match reader.restriction with
      | some previous =>
          if previous = kind then .ok reader
          else .error (.conflictingFlags (restrictionFlag previous) (restrictionFlag kind))
      | none =>
          .ok { options := { options with offered := .only kind }, restriction := some kind }
  | .jobs value =>
      match jobCount? value.toList with
      | some jobs => .ok { reader with options := { options with jobs := some jobs } }
      | none => .error (.invalidJobs value)
  | .verbose => .ok { reader with options := { options with verbose := true } }
  | .unknown => .error (.unknownOption argument)
  | .path => .ok { reader with options := { options with paths := options.paths ++ [argument] } }

/-- The kind that the options are restricted to where the command offers none. -/
def OptionsReader.misplaced? (reader : OptionsReader) : Option TokenKind :=
  if reader.options.command = .tokens then none else reader.restriction

/-- Looks at the arguments as a whole. -/
def OptionsReader.finish (reader : OptionsReader) : Except UsageError Options :=
  match reader.misplaced? with
  | some kind => .error (.misplacedFlag (restrictionFlag kind))
  | none => if reader.options.paths = [] then .error .noInput else .ok reader.options

/-- The options that arguments ask for. -/
def Options.parse : List String → Except UsageError Options
  | [] => .error .missingCommand
  | name :: arguments =>
      match Command.ofName? name with
      | none => .error (.unknownCommand name)
      | some command => do
          let reader ← arguments.foldlM OptionsReader.take { options := { command := command } }
          reader.finish

end TemplateScan
