import FilterCompiler.Command.Fault
import FilterCompiler.Host.Version
import FilterCompiler.Regex.Dialect
import FilterCompiler.Ruleset.Entry
import FilterCompiler.Store.Session

/-!
# Checking a ruleset

`validate` reads a ruleset and says whether the host takes it: how many entries it may have, and
whether every filter is in the host's regex dialect.
-/

namespace FilterCompiler

/-- What is wrong with a ruleset. -/
inductive RulesetProblem where
  | tooMany (count : Nat) (version : HostVersion)
  | filter (index : Nat) (error : Regex.DialectError)
deriving DecidableEq, Repr

namespace RulesetProblem

/-- The wording of a problem. -/
def message : RulesetProblem → String
  | tooMany count version =>
      s!"{count} entries exceed the limit of {version.rulesLimit} for host {version.token}"
  | filter index error => s!"entry {index}: {error.message}"

end RulesetProblem

namespace Ruleset

/-- The problem of the filter of an entry, if it has one. -/
def filterProblem? (index : Nat) (entry : Entry) : Option RulesetProblem :=
  match Regex.check entry.trigger.urlFilter with
  | .ok () => none
  | .error e => some (.filter index e)

/-- The problems of the filters of some entries, the first of which has the given index. -/
def filterProblems (entries : List Entry) : List RulesetProblem :=
  entries.zipIdx.filterMap fun p => filterProblem? p.2 p.1

/-- The problems of a ruleset. -/
def problems (version : HostVersion) (entries : List Entry) : List RulesetProblem :=
  (if version.rulesLimit < entries.length then [.tooMany entries.length version] else [])
    ++ filterProblems entries

end Ruleset

/-! ## The command -/

/-- The quotient rounded to the nearest whole number; a half goes to the even neighbour. -/
def roundedQuotient (n d : Nat) : Nat :=
  if 2 * (n % d) < d then n / d
  else if d < 2 * (n % d) then n / d + 1
  else n / d + n / d % 2

/-- A number of bytes in units of 1024, with one decimal place. -/
def kilobytes (bytes : Nat) : String :=
  let tenths := roundedQuotient (10 * bytes) 1024
  let whole := tenths / 10
  let rest := tenths % 10
  s!"{whole}.{rest}"

/-- Says what is wrong with a ruleset. -/
def printProblems : List RulesetProblem → SessionM Unit
  | [] => return ()
  | problem :: problems => do
      Session.printError ("  " ++ problem.message)
      printProblems problems

/-- Says that a ruleset is fine. -/
def printValid (path : String) (version : HostVersion) (count size : Nat) : SessionM Unit := do
  Session.print s!"Ruleset '{path}' is valid"
  Session.print s!"  Entries:  {count} (limit {version.rulesLimit})"
  Session.print s!"  Size:     {size} bytes ({kilobytes size} KB)"

/-- Checks the ruleset in a file. -/
def validateRuleset (path : String) (version : HostVersion) :
    SessionM (Except CommandFault Unit) := do
  match (← Session.getFiles).readText path with
  | .error fault => return .error (.unreadable path fault)
  | .ok text =>
      match Ruleset.parse? text with
      | none => return .error .notRuleset
      | some entries =>
          match Ruleset.problems version entries with
          | [] =>
              printValid path version entries.length text.utf8ByteSize
              return .ok ()
          | problems =>
              printProblems problems
              return .error (.problems path problems.length)

end FilterCompiler
