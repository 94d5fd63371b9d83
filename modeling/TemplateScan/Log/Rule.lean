import TemplateScan.Log.Threshold
import TemplateScan.Pattern
import TemplateScan.Text.Decimal

/-! # Rules of a log filter

A rule sets the threshold of a part of the log: of the targets that start with some text, of what
is in a stretch of some name, or of what has a value of some name. It is written as a target, then
in brackets the name of a stretch and in braces a value, then an equals sign and the threshold; each
of these may be left out.
-/

namespace TemplateScan

/-- The value that a rule asks a named value of a stretch to have. -/
inductive FieldValue where
  | number (value : Nat)
  /-- Another number, or a pattern. Neither fits a number that counts something. -/
  | text (value : String)
deriving DecidableEq, Repr

/-- A named value that a rule asks for. -/
structure FieldTest where
  name : String
  value : Option FieldValue := none
deriving DecidableEq, Repr

/-- A rule for a part of the log. -/
structure FilterRule where
  /-- What the target starts with. -/
  target : String := ""
  /-- The name of the stretch, where one is asked for. -/
  stretch : Option String := none
  field : Option FieldTest := none
  threshold : Threshold := .everything
deriving DecidableEq, Repr

/-- Why a text is no rule. -/
inductive RuleError where
  | malformed
  | unknownLevel
  /-- The pattern that a value is to fit cannot be used. -/
  | badPattern (error : PatternError)
deriving DecidableEq, Repr

/-- What is said about a text that is no rule. -/
def RuleError.message : RuleError → String
  | .malformed => "invalid filter directive"
  | .unknownLevel =>
      "error parsing level filter: expected one of \"off\", \"error\", \"warn\", \"info\", " ++
        "\"debug\", \"trace\", or a number 0-5"
  | .badPattern error => "invalid field filter: " ++ error.message

/-! ### Reading a rule

Blanks at the ends of a rule are passed over when its parts are told apart. The parts are then cut
out of the rule as it is written, at the byte offsets that were found: a blank at the start moves
them all, and the last one takes the blanks at the end with it. Moved parts may begin or end inside a
character. -/

/-- The value that a text asks for: a number, or else a pattern. -/
def FieldValue.ofText (text : String) : Except PatternError FieldValue := do
  match unsigned? text.toList with
  | some value => return .number value
  | none =>
      if !isDecimal text.toList then
        Pattern.check text.toList
      return .text text

/-- The named value that a text asks for: a name, or a name and a value with an equals sign between
them. What stands behind a second equals sign is ignored. -/
def FieldTest.ofText (text : String) : Except PatternError FieldTest := do
  match text.splitOn "=" with
  | name :: value :: _ => return ⟨name, some (← FieldValue.ofText value)⟩
  | _ => return ⟨text, none⟩

/-- A reading of a rule: it may fail, and it relies on where parts are cut out. -/
abbrev RuleReading := ExceptT RuleError Checked

namespace FilterRule

/-- The rule with the threshold that is written from `start` on; an empty one lets everything
through. -/
def withThreshold (rule : FilterRule) (whole : Source) (start : Nat) : RuleReading FilterRule := do
  let word ← whole.cut ⟨start, whole.size⟩
  if word = "" then
    return { rule with threshold := .everything }
  else
    match Threshold.ofText? word with
    | some threshold => return { rule with threshold := threshold }
    | none => throw .unknownLevel

/-- Reads what stands behind the brackets of a rule: nothing, or the threshold. -/
def readEnd (rule : FilterRule) (whole : Source) (start : Nat) : List Char → RuleReading FilterRule
  | [] => return rule
  | '=' :: _ => rule.withThreshold whole (start + 1)
  | _ => throw .malformed

/-- Reads a named value up to the end of its braces and of the brackets around them. -/
def readField (rule : FilterRule) (whole : Source) (start : Nat) (cs : List Char) :
    RuleReading FilterRule := do
  let stop := start + byteLength (cs.takeWhile (· != '\x7d'))
  match cs.dropWhile (· != '\x7d') with
  | [] => throw .malformed
  | _ :: behind =>
      let text ← whole.cut ⟨start, stop⟩
      if text = "" then
        throw .malformed
      match FieldTest.ofText text with
      | .error error => throw (.badPattern error)
      | .ok field =>
          match behind with
          | ']' :: behind => readEnd { rule with field := some field } whole (stop + 2) behind
          | _ => throw .malformed

/-- Reads the brackets of a rule from behind the opening one on. Without a name in front of braces
any stretch will do. -/
def readBrackets (rule : FilterRule) (whole : Source) (start : Nat) (cs : List Char) :
    RuleReading FilterRule := do
  let stop := start + byteLength (cs.takeWhile fun c => c != ']' && c != '\x7b')
  match cs.dropWhile fun c => c != ']' && c != '\x7b' with
  | [] => throw .malformed
  | mark :: behind =>
      let name ← whole.cut ⟨start, stop⟩
      if mark = ']' then
        readEnd { rule with stretch := some name } whole (stop + 1) behind
      else
        readField { rule with stretch := if name = "" then none else some name } whole (stop + 1)
          behind

/-- A rule of one word: a threshold for everything, or a target of which everything is let
through. -/
def ofWord (word : String) : FilterRule :=
  match Threshold.ofText? word with
  | some threshold => { threshold := threshold }
  | none => { target := word }

/-- May a target start with a character? -/
def startsTarget (c : Char) : Bool :=
  c == '-' || c == ':' || c == '_' || isAlphanumeric c

/-- Reads a rule that starts with a target, or with a threshold for everything. -/
def readTarget (text : String) (cs : List Char) : RuleReading FilterRule := do
  let whole := Source.ofText text
  let stop := byteLength (cs.takeWhile fun c => c != '=' && c != '[')
  match cs.dropWhile fun c => c != '=' && c != '[' with
  | [] => return ofWord text
  | mark :: behind =>
      let rule : FilterRule := { target := ← whole.cut ⟨0, stop⟩ }
      if mark = '=' then
        rule.withThreshold whole (stop + 1)
      else
        rule.readBrackets whole (stop + 1) behind

/-- Reads a rule. -/
def read (text : String) : RuleReading FilterRule :=
  match trimEnds text.toList with
  | [] => throw .malformed
  | '[' :: rest => readBrackets {} (Source.ofText text) 1 rest
  | first :: rest => if startsTarget first then readTarget text (first :: rest) else throw .malformed

/-- The rule that a text stands for. -/
def ofText (text : String) : Checked (Except RuleError FilterRule) :=
  (read text).run

/-! ### What a rule is about -/

/-- Is the rule one for this target? -/
def coversTarget (rule : FilterRule) (target : String) : Bool :=
  rule.target.toList.isPrefixOf target.toList

/-- Does the rule ask for a stretch, or for a value of one? It then also decides about what happens
in that stretch. -/
def isScoped (rule : FilterRule) : Bool :=
  rule.stretch.isSome || rule.field.isSome

/-- Does the rule ask what a named value is equal to? -/
def asksValue (rule : FilterRule) : Bool :=
  rule.field.any (·.value.isSome)

/-- Does the rule decide about events wherever they happen? -/
def isGeneral (rule : FilterRule) : Bool :=
  rule.stretch.isNone && !rule.asksValue

/-- Are two rules about the same part of the log? -/
def sameScope (rule other : FilterRule) : Bool :=
  rule.target = other.target && rule.stretch = other.stretch && rule.field = other.field

/-- Does a general rule decide about an event? -/
def coversEvent (rule : FilterRule) (event : Event) : Bool :=
  rule.isGeneral && rule.coversTarget event.target && rule.field.all (event.hasField ·.name)

/-- Does a general rule decide about the stretch in which a source is segmented? -/
def coversStretch (rule : FilterRule) : Bool :=
  rule.isGeneral && rule.coversTarget segmenterTarget

/-- Is a scoped rule one for the stretch in which a source is segmented? -/
def namesStretch (rule : FilterRule) : Bool :=
  rule.isScoped && rule.coversTarget segmenterTarget && rule.stretch.all (· == stretchName) &&
    rule.field.all fun field => (stretchFields 0).any (·.1 == field.name)

/-- Does the stretch in which a source of `size` bytes is segmented have the value that the rule
asks for? -/
def acceptsStretch (rule : FilterRule) (size : Nat) : Bool :=
  rule.field.all fun field =>
    match field.value with
    | none => true
    | some (.number value) => (stretchFields size).contains (field.name, toString value)
    | some (.text _) => false

/-- Does a general rule name its part of the log more closely than another one? -/
def outranks (rule other : FilterRule) : Bool :=
  other.target.length < rule.target.length ||
    (other.target.length == rule.target.length &&
      decide (((other.field.map (·.name)).getD "") < ((rule.field.map (·.name)).getD "")))

end FilterRule

end TemplateScan
