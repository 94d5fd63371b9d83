import TemplateScan.Log.Event
import TemplateScan.Text.Unsigned

/-! # Thresholds

How much of a log is kept: everything from some level on, or nothing at all.
-/

namespace TemplateScan

/-- The least level that is let through, if any is. -/
inductive Threshold where
  | off
  | atLeast (level : Level)
deriving DecidableEq, Repr

namespace Threshold

/-- The threshold that lets everything through. -/
def everything : Threshold :=
  .atLeast .trace

/-- How many levels a threshold lets through. -/
def verbosity : Threshold → Nat
  | .off => 0
  | .atLeast level => level.verbosity

/-- Does a threshold let a level through? -/
def permits (threshold : Threshold) (level : Level) : Bool :=
  level.verbosity ≤ threshold.verbosity

/-- A threshold lets its own level through. -/
theorem permits_atLeast (level : Level) : (atLeast level).permits level = true := by
  simp [permits, verbosity]

/-- Of two thresholds, the one that lets more through. -/
def widest (first second : Threshold) : Threshold :=
  if first.verbosity ≤ second.verbosity then second else first

/-- The widest of two thresholds lets through what either does. -/
theorem permits_widest (first second : Threshold) (level : Level) :
    (first.widest second).permits level = (first.permits level || second.permits level) := by
  unfold widest permits
  split
  · next wider =>
      rw [Bool.eq_iff_iff]
      simp only [Bool.or_eq_true, decide_eq_true_eq]
      omega
  · next narrower =>
      rw [Bool.eq_iff_iff]
      simp only [Bool.or_eq_true, decide_eq_true_eq]
      omega

/-- The threshold that lets a number of levels through. -/
def ofVerbosity? : Nat → Option Threshold
  | 0 => some .off
  | 1 => some (.atLeast .error)
  | 2 => some (.atLeast .warn)
  | 3 => some (.atLeast .info)
  | 4 => some (.atLeast .debug)
  | 5 => some (.atLeast .trace)
  | _ => none

/-- Every threshold is the one that lets through as many levels as it does. -/
theorem ofVerbosity?_verbosity (threshold : Threshold) :
    ofVerbosity? threshold.verbosity = some threshold := by
  cases threshold with
  | off => rfl
  | atLeast level => cases level <;> rfl

/-- The threshold that a word stands for; upper and lower case are the same. -/
def ofName? (name : String) : Option Threshold :=
  match name.toLower with
  | "off" => some .off
  | "error" => some (.atLeast .error)
  | "warn" => some (.atLeast .warn)
  | "info" => some (.atLeast .info)
  | "debug" => some (.atLeast .debug)
  | "trace" => some (.atLeast .trace)
  | _ => none

/-- The threshold that a text stands for: a word, or the number of levels to let through. -/
def ofText? (text : String) : Option Threshold :=
  ((unsigned? text.toList).bind ofVerbosity?).or (ofName? text)

end Threshold

/-- The entries of a log that a threshold lets through; the brackets around a stretch have its
level. -/
def LogEntry.within (threshold : Threshold) (entries : List LogEntry) : List LogEntry :=
  entries.filter fun entry =>
    match entry with
    | .event e => threshold.permits e.level
    | _ => threshold.permits stretchLevel

end TemplateScan
