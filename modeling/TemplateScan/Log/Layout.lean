import TemplateScan.Log.Filter

/-! # Log layouts

A log is written either as lines that start with a time and name the stretch they stand in, or as a
tree whose branches are the stretches.
-/

namespace TemplateScan

/-- How a log is written. -/
inductive LogLayout where
  /-- One line per event, each starting with the given time. -/
  | lines (time : String)
  | tree
deriving DecidableEq, Repr

namespace LogLayout

/-- Named values, each behind the given separator. -/
def renderFields (separator : String) (fields : List (String × String)) : String :=
  String.join (fields.map fun field => separator ++ field.1 ++ "=" ++ field.2)

/-- A text filled up with spaces on the left to a width. -/
def padLeft (width : Nat) (text : String) : String :=
  String.ofList (List.replicate (width - text.length) ' ') ++ text

/-- How the stretch over a source of `size` bytes is named in the lines of its events. -/
def stretchMark (size : Nat) : String :=
  stretchName ++ "\x7b" ++ " ".intercalate ((stretchFields size).map fun field =>
    field.1 ++ "=" ++ field.2) ++ "\x7d: "

/-- The line of an event; `inside` is the size of the source whose stretch it stands in. -/
def eventLine (layout : LogLayout) (inside : Option Nat) (event : Event) : String :=
  match layout with
  | .lines time =>
      time ++ " " ++ padLeft 5 event.level.label ++ " " ++ (inside.map stretchMark).getD "" ++
        event.target ++ ": " ++ event.message ++ renderFields " " event.fields ++ "\n"
  | .tree =>
      (if inside.isSome then "├─ " else "") ++ event.level.label ++ " " ++ event.target ++ " " ++
        event.message ++ renderFields ", " event.fields ++ "\n"

/-- The line at the begin of a stretch. -/
def openingLine (layout : LogLayout) (size : Nat) : String :=
  match layout with
  | .lines _ => ""
  | .tree =>
      "┐" ++ segmenterTarget ++ "::" ++ stretchName ++ renderFields " " (stretchFields size) ++ "\n"

/-- The line at the end of a stretch. -/
def closingLine : LogLayout → String
  | .lines _ => ""
  | .tree => "┘\n"

/-- The lines of a log behind the part that has opened the stretch `inside`. What the filter does
not let through is left out, stretches included. -/
def linesFrom (layout : LogLayout) (filter : LogFilter) :
    Option Nat → List LogEntry → List String
  | _, [] => []
  | inside, .event event :: entries =>
      let rest := layout.linesFrom filter inside entries
      if filter.permits inside event then layout.eventLine inside event :: rest
      else rest
  | _, .opened size :: entries =>
      if filter.permitsStretch size then
        layout.openingLine size :: layout.linesFrom filter (some size) entries
      else
        layout.linesFrom filter none entries
  | inside, .closed :: entries =>
      let rest := layout.linesFrom filter none entries
      if inside.isSome then layout.closingLine :: rest else rest

/-- The text of a log. -/
def render (layout : LogLayout) (filter : LogFilter) (entries : List LogEntry) : String :=
  String.join (layout.linesFrom filter none entries)

end LogLayout

end TemplateScan
