import TemplateScan.Source.Position
import TemplateScan.Template

/-! # Failures

Why the command line rejects its arguments, or reports a file as failed.
-/

namespace TemplateScan

/-- Why a file could not be read, with the words of the system that say so. -/
inductive ReadError where
  | notFound (detail : String)
  | permissionDenied (detail : String)
  /-- The file is not UTF-8. -/
  | invalidData (detail : String)
  | other (detail : String)
deriving DecidableEq, Repr

/-- The words of the system. -/
def ReadError.detail : ReadError → String
  | .notFound detail => detail
  | .permissionDenied detail => detail
  | .invalidData detail => detail
  | .other detail => detail

/-- Anything that makes a file, or the whole invocation, fail. -/
inductive Failure where
  | read (path : String) (cause : ReadError)
  | template (path : String) (position : Position) (cause : TemplateError)
  | usage (reason : String)
deriving DecidableEq, Repr

namespace Failure

/-- What is said about a failure. -/
def message : Failure → String
  | .read path (.notFound _) => "cannot find file '" ++ path ++ "'"
  | .read path (.permissionDenied _) => "permission denied reading '" ++ path ++ "'"
  | .read path (.invalidData _) => "'" ++ path ++ "' contains invalid UTF-8 data"
  | .read path (.other detail) => "error reading '" ++ path ++ "': " ++ detail
  | .template path position cause =>
      path ++ ":" ++ toString position.line ++ ":" ++ toString position.column ++ ": " ++
        cause.message
  | .usage reason => reason

/-- What is said about the cause of a failure, if it has one. -/
def cause? : Failure → Option String
  | .read _ cause => some cause.detail
  | .template _ _ cause => some cause.message
  | .usage _ => none

end Failure

end TemplateScan
