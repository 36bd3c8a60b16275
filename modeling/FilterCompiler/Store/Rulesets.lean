import FilterCompiler.Ruleset.Assemble
import FilterCompiler.Store.Session

/-!
# Rulesets in a directory

A ruleset store is a directory with one file for each ruleset, named for its identifier, and a file
with the extended rules.
-/

namespace FilterCompiler

/-- Why an operation of a store fails, with the path at which it failed. -/
inductive StoreFault where
  | create (path : String) (fault : FileFault)
  | write (path : String) (fault : FileFault)
  | remove (path : String) (fault : FileFault)
deriving DecidableEq, Repr

/-- The wording of a fault. -/
def StoreFault.message : StoreFault → String
  | create path fault => "Failed to create '" ++ path ++ "': " ++ fault.message
  | write path fault => "Failed to write '" ++ path ++ "': " ++ fault.message
  | remove path fault => "Failed to remove '" ++ path ++ "': " ++ fault.message

/-- A directory of rulesets. -/
structure RulesetStore where
  directory : String
deriving DecidableEq, Repr

namespace RulesetStore

/-- Writes a file and makes its directory if need be. -/
def writeFile (path : String) (content : ByteArray) : SessionM (Except StoreFault Unit) := do
  let (made, files) := (← Session.getFiles).makeDirectories (Path.parent path)
  Session.setFiles files
  match made with
  | .error fault => return .error (.create (Path.parent path) fault)
  | .ok () =>
      match files.write path content with
      | .error fault => return .error (.write path fault)
      | .ok files =>
          Session.setFiles files
          return .ok ()

/-- The path of a ruleset. -/
def rulesetPath (store : RulesetStore) (id : String) : String :=
  Path.join store.directory (id ++ ".json")

/-- The path of the extended rules. -/
def extendedPath (store : RulesetStore) : String :=
  Path.join store.directory "advanced_rules.txt"

/-- Writes a ruleset. -/
def writeRuleset (store : RulesetStore) (id json : String) : SessionM (Except StoreFault Unit) :=
  writeFile (store.rulesetPath id) json.toUTF8

/-- Writes the extended rules. -/
def writeExtended (store : RulesetStore) (text : String) : SessionM (Except StoreFault Unit) :=
  writeFile store.extendedPath text.toUTF8

/-- How often a ruleset is written before it counts as failed. -/
def writeAttempts : Nat := 3

/-- Writes a ruleset, `attempts` more times at most, and says whether it is written. -/
def writeAgain (store : RulesetStore) (id json : String) : Nat → SessionM Bool
  | 0 => return false
  | attempts + 1 => do
      match ← store.writeRuleset id json with
      | .ok () =>
          Session.debug s!"Saved ruleset {id} ({json.utf8ByteSize} bytes)"
          return true
      | .error fault =>
          Session.warn s!"Attempt {writeAttempts - attempts}/{writeAttempts}: {fault.message}"
          store.writeAgain id json attempts

/-- Writes a ruleset for each identifier, the neutral one when there are no more, and counts the
failures. -/
def writeEach (store : RulesetStore) : List String → List String → SessionM Nat
  | [], _ => return 0
  | id :: ids, rulesets => do
      let written ← store.writeAgain id (rulesets.headD neutralRuleset) writeAttempts
      let failures ← store.writeEach ids rulesets.tail
      return (if written then failures else failures + 1)

/-- Writes rulesets under identifiers and counts the failures; rulesets without identifier are
dropped. -/
def writeRulesets (store : RulesetStore) (ids rulesets : List String) : SessionM Nat := do
  let count := rulesets.length
  let idCount := ids.length
  if idCount < count then
    Session.warn
      s!"{count} chunks but only {idCount} ruleset identifiers; extra chunks are dropped"
  store.writeEach ids rulesets

end RulesetStore
end FilterCompiler
