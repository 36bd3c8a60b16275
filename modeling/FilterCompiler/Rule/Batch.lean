import FilterCompiler.Rule.Basic
import FilterCompiler.Rule.Canonical

/-!
# Batches of rules

A list of lines gives a list of rules. A line that cannot be read is counted and dropped.
-/

namespace FilterCompiler

/-- What the lines in canonical form come to: rules and errors in order, the rest left out. -/
def Rule.outcome? [DomainEncoder] (version : HostVersion) (line : String) :
    Option (Except LineError Rule) :=
  match Rule.ofLine version line with
  | .ok none => none
  | .ok (some rule) => some (.ok rule)
  | .error e => some (.error e)

/-- What a line of a filter list comes to: rules and errors in order. -/
def Rule.outcomes [DomainEncoder] (version : HostVersion) (line : String) :
    List (Except LineError Rule) :=
  let trimmed := Text.trim line.toList
  if Rule.isSkipped trimmed then []
  else
    match Canonical.lines (String.ofList trimmed) with
    | .error e => [.error e]
    | .ok lines => lines.filterMap (Rule.outcome? version)

/-- The rules of some lines, and how many lines in canonical form could not be read. -/
structure RuleBatch where
  rules : List Rule
  errors : Nat

namespace RuleBatch

/-- The batch of some outcomes. -/
def ofOutcomes (outcomes : List (Except LineError Rule)) : RuleBatch :=
  { rules := outcomes.filterMap Except.toOption
    errors := outcomes.countP fun outcome => !outcome.isOk }

/-- The batch of the lines of a filter list. -/
def ofLines [DomainEncoder] (version : HostVersion) (lines : List String) : RuleBatch :=
  ofOutcomes (lines.flatMap (Rule.outcomes version))

end RuleBatch
end FilterCompiler
