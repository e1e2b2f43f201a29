import LogForwarding.Journal
import LogForwarding.Number.Literal
import LogForwarding.Text.Blank

/-!
# Log filters

A log filter says which events are logged. It is a list of rules with commas between
them. A rule is a level, the name of a component, or both with an equals sign between
them; a name stands for all components whose names start with it. Of the rules that apply
to an event, the one with the longest name decides.
-/

namespace LogForwarding

/-- The most detailed level that is logged, `none` if nothing is. -/
abbrev Threshold : Type := Option Level

namespace Threshold

/-- The thresholds by their numbers. -/
def all : List Threshold := none :: Level.all.map some

/-- The name of a threshold. -/
def name : Threshold → String
  | none => "OFF"
  | some level => level.name

/-- Reads a threshold, which may be a number or a name in any case. -/
def ofText? (text : String) : Option Threshold :=
  let digits := match text.toList with
    | '+' :: rest => rest
    | rest => rest
  match Number.natural? 10 digits with
  | some n => all[n]?
  | none => all.find? fun threshold => threshold.name == text.map Char.toUpper

/-- Whether events of a level are logged. -/
def allows (threshold : Threshold) (level : Level) : Bool :=
  match threshold with
  | none => false
  | some most => level.rank ≤ most.rank

end Threshold

/-- A rule of a log filter. -/
structure FilterRule where
  /-- What the name of a component has to start with. -/
  start : String := ""
  /-- The fields that an event has to have. -/
  fields : List String := []
  /-- Whether the rule is about spans of time. No event is in one. -/
  isForSpans : Bool := false
  /-- The most detailed level that is logged. -/
  threshold : Threshold := some .trace
  deriving DecidableEq, Repr

namespace FilterRule

/-- Whether a character can begin the name of a component. -/
def canStart (c : Char) : Bool :=
  c = '-' || c = ':' || c = '_' || c.isAlphanum || '\x7F' < c

/-- Reads the level behind an equals sign; without one everything is logged. -/
def withLevel (rule : FilterRule) : List Char → Option FilterRule
  | [] => some rule
  | '=' :: rest =>
    if rest.isEmpty then some rule
    else (Threshold.ofText? (String.ofList rest)).map fun threshold => { rule with threshold }
  | _ => none

/-- Reads the field between braces. One with a value is about spans of time. -/
def withField (rule : FilterRule) (field : List Char) : FilterRule :=
  let name := String.ofList (field.takeWhile (· != '='))
  if field.contains '=' then { rule with isForSpans := true }
  else { rule with fields := [name] }

/-- Reads what stands in brackets, the first of them already read, and what follows. -/
def withSpan (rule : FilterRule) (text : List Char) : Option FilterRule :=
  let span := text.takeWhile fun c => c != ']' && c != '\x7b'
  match text.drop span.length with
  | ']' :: rest => { rule with isForSpans := true }.withLevel rest
  | '\x7b' :: rest =>
    let field := rest.takeWhile (· != '\x7d')
    match rest.drop field.length with
    | '\x7d' :: ']' :: rest =>
      ({ rule with isForSpans := !span.isEmpty }.withField field).withLevel rest
    | _ => none
  | _ => none

/-- Reads a rule that starts with a name or a level. -/
def ofName? (text : List Char) : Option FilterRule :=
  let name := text.takeWhile fun c => c != '=' && c != '['
  let start := String.ofList name
  match text.drop name.length with
  | [] =>
    some (match Threshold.ofText? start with
      | some threshold => { threshold }
      | none => { start })
  | '[' :: rest => { start : FilterRule }.withSpan rest
  | rest => { start : FilterRule }.withLevel rest

/-- Reads a rule. -/
def ofText? (text : List Char) : Option FilterRule :=
  match text with
  | [] => none
  | '[' :: rest => ({} : FilterRule).withSpan rest
  | c :: rest => if canStart c then ofName? (c :: rest) else none

/-- Whether a rule applies to an event. -/
def appliesTo (rule : FilterRule) (event : Event) : Bool :=
  !rule.isForSpans && event.component.target.startsWith rule.start
    && rule.fields.all fun field => field = "message" || event.fields.any (·.1 == field)

/-- Whether one rule gives way to another when both apply. -/
def givesWayTo (rule other : FilterRule) : Bool :=
  rule.start.length < other.start.length
    || (rule.start.length = other.start.length && rule.fields.length ≤ other.fields.length)

end FilterRule

/-- Which events are logged. -/
structure LogFilter where
  /-- The rules. -/
  rules : List FilterRule
  deriving DecidableEq, Repr

namespace LogFilter

/-- The texts of the rules in the text of a filter. -/
def parts (text : String) : List (List Char) :=
  ((text.splitOn ",").filter fun part => !part.isEmpty).map fun part =>
    ((part.toList.dropWhile Text.isBlank).reverse.dropWhile Text.isBlank).reverse

/-- Reads a filter, all of whose rules have to be well formed. -/
def ofText? (text : String) : Option LogFilter :=
  ((parts text).mapM FilterRule.ofText?).map fun rules => { rules }

/-- Reads a filter and leaves out what is no rule. Without any rule errors are logged. -/
def ofLevel (text : String) : LogFilter :=
  match (parts text).filterMap FilterRule.ofText? with
  | [] => { rules := [{ threshold := some .error }] }
  | rules => { rules }

/-- The variable with the filter that takes precedence over any level. -/
def variableName : String := "RUST_LOG"

/-- The filter for a level in an environment. -/
def inEnvironment (environment : Dictionary String) (level : String) : LogFilter :=
  ((environment.get? variableName).bind ofText?).getD (ofLevel level)

/-- The rule that decides about an event. -/
def ruleFor? (filter : LogFilter) (event : Event) : Option FilterRule :=
  (filter.rules.filter fun rule => rule.appliesTo event).foldl
    (fun best rule => match best with
      | some best => some (if best.givesWayTo rule then rule else best)
      | none => some rule)
    none

/-- Whether an event is logged. -/
def allows (filter : LogFilter) (event : Event) : Bool :=
  (filter.ruleFor? event).any fun rule => rule.threshold.allows event.level

end LogFilter

end LogForwarding
