import TemplateScan.Log.Rule

/-! # Log filters

A filter is a list of rules. Of the general rules for an event, the one that names it most closely
decides; a scoped rule lets more through while its stretch lasts. Of two rules for the same part of
the log the later one counts.
-/

namespace TemplateScan

/-- A list of rules, in the order in which they are written. -/
structure LogFilter where
  rules : List FilterRule
deriving DecidableEq, Repr

namespace LogFilter

/-- The texts of the rules of a filter, which have commas between them. -/
def ruleTexts (text : String) : List String :=
  ((text.toList.splitOn ',').map String.ofList).filter (· ≠ "")

/-- What is said about a text that is no rule of a filter. -/
def complaint (rule : String) (error : RuleError) : String :=
  "ignoring `" ++ rule ++ "`: " ++ error.message ++ "\n"

/-- The filter with the given rules; without any, errors are let through. -/
def ofRules : List FilterRule → LogFilter
  | [] => ⟨[{ threshold := .atLeast .error }]⟩
  | rules => ⟨rules⟩

/-- The filter that a text stands for, and what is said about the texts in it that are no rules, in
their order. They are left out. -/
def ofText (text : String) : Checked (LogFilter × String) := do
  let readings ← (ruleTexts text).mapM fun rule => do return (rule, ← FilterRule.ofText rule)
  let rules := readings.filterMap fun (_, reading) => reading.toOption
  let complaints := readings.map fun (rule, reading) =>
    match reading with
    | .ok _ => ""
    | .error error => complaint rule error
  return (ofRules rules, String.join complaints)

/-- The rules without those that a later one for the same part of the log replaces. -/
def lasting : List FilterRule → List FilterRule
  | [] => []
  | rule :: rules =>
      if rules.any (·.sameScope rule) then lasting rules else rule :: lasting rules

/-- The rules that count. -/
def lastingRules (filter : LogFilter) : List FilterRule :=
  lasting filter.rules

/-- Of some rules the one that names its part of the log most closely. -/
def closest? : List FilterRule → Option FilterRule
  | [] => none
  | rule :: rules =>
      match closest? rules with
      | none => some rule
      | some other => if other.outranks rule then some other else some rule

/-- Do the general rules let an event through? -/
def permitsGenerally (filter : LogFilter) (event : Event) : Bool :=
  (closest? (filter.lastingRules.filter (·.coversEvent event))).any
    (·.threshold.permits event.level)

/-- The widest threshold that anything can be let through by. Where a rule asks what a value is equal
to, that is known too late to leave anything out before. -/
def ceiling (filter : LogFilter) : Threshold :=
  if filter.rules.any (·.asksValue) then .everything
  else filter.rules.foldl (fun widest rule => widest.widest rule.threshold) .off

/-- The threshold that scoped rules set while a source of `size` bytes is segmented, where there are
such rules: the widest of those that accept the stretch. -/
def scopedThreshold? (filter : LogFilter) (size : Nat) : Option Threshold :=
  let rules := filter.lastingRules.filter (·.namesStretch)
  if rules.isEmpty || !filter.ceiling.permits stretchLevel then
    none
  else
    some ((rules.filter (·.acceptsStretch size)).foldl
      (fun widest rule => widest.widest rule.threshold) .off)

/-- Is the stretch in which a source of `size` bytes is segmented shown? It is where a scoped rule
names it, and where the general rules let it through. -/
def permitsStretch (filter : LogFilter) (size : Nat) : Bool :=
  (filter.scopedThreshold? size).isSome ||
    (closest? (filter.lastingRules.filter (·.coversStretch))).any
      (·.threshold.permits stretchLevel)

/-- Does the filter let an event through? If it happens in the shown stretch over a source,
`inside` is the size of that source. -/
def permits (filter : LogFilter) (inside : Option Nat) (event : Event) : Bool :=
  filter.permitsGenerally event ||
    (inside.bind filter.scopedThreshold?).any (·.permits event.level)

end LogFilter

end TemplateScan
