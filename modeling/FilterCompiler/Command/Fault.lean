import FilterCompiler.Conversion.Chunks
import FilterCompiler.Store.Rulesets

/-!
# Why a command fails

What keeps a command from being carried out, and what is said of it.
-/

namespace FilterCompiler

/-- Why a command fails. -/
inductive CommandFault where
  | noInputs
  | noRulesetIds
  | unreadable (path : String) (fault : FileFault)
  | cancelled
  | store (fault : StoreFault)
  | notRuleset
  | problems (path : String) (count : Nat)
deriving DecidableEq, Repr

/-- The wording of a fault. -/
def CommandFault.message : CommandFault → String
  | noInputs => "No input files specified"
  | noRulesetIds => "No ruleset identifiers specified"
  | unreadable path fault => "Failed to read '" ++ path ++ "': " ++ fault.message
  | cancelled => Conversion.cancelledMessage
  | store fault => fault.message
  | notRuleset => "Invalid ruleset JSON:"
  | problems path count => s!"'{path}' has {count} problems"

end FilterCompiler
