import FilterCompiler.Command.Compile

/-!
# Switching rulesets off

`disable` forgets the cached conversion and writes the ruleset that does nothing under every
identifier.
-/

namespace FilterCompiler
namespace DisableJob

/-- The store to which the job writes. -/
def store (job : DisableJob) : RulesetStore := { directory := job.output }

/-- Says what has been written. -/
def printSummary (job : DisableJob) (failures : Nat) : SessionM Unit :=
  let count := job.rulesetIds.length
  Session.print s!"Reset {count} rulesets in '{job.output}' ({failures} write failures)"

/-- Carries out the job. -/
def run (machine : Machine) (job : DisableJob) : SessionM (Except CommandFault Unit) := do
  if job.rulesetIds.isEmpty then return .error .noRulesetIds
  else
    match ← job.store.clearCache with
    | .error fault => return .error (.store fault)
    | .ok () =>
        let failures ← job.store.writeRulesets job.rulesetIds []
        job.printSummary failures
        reloadIfAsked machine job.reloadCommand job.rulesetIds
        return .ok ()

end DisableJob
end FilterCompiler
