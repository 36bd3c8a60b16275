import FilterCompiler.Command.Arguments
import FilterCompiler.Command.Fault
import FilterCompiler.Conversion.Allowlist
import FilterCompiler.Conversion.Report
import FilterCompiler.Store.Cache
import FilterCompiler.Store.Programs
import FilterCompiler.Text.Lines

/-!
# Compiling filter lists

`compile` reads filter lists, converts them in chunks or takes the last conversion from the cache,
and writes a ruleset for each identifier. The rulesets are written even if the cache cannot be.
-/

namespace FilterCompiler

/-! ## Reloading -/

/-- How often a ruleset is reloaded before it counts as failed. -/
def reloadAttempts : Nat := 3

/-- What is said of an event. -/
def reloadRecord : ReloadEvent ReloadFault → LogRecord
  | .reloaded id attempt => { level := .debug, message := s!"Reloaded {id} (attempt {attempt})" }
  | .failed id attempt fault =>
      { level := .warn
        message :=
          s!"Reload of {id} failed (attempt {attempt}/{reloadAttempts}): {fault.message}" }
  | .gaveUp id => { level := .warn, message := s!"Giving up on reloading {id}" }

/-- Reloads rulesets, says what happens, and gives those that never reloaded. -/
def reloadEach (machine : Machine) (command : ReloadCommand) (ids : List String) :
    SessionM (List String) := fun s =>
  let (events, s) := (command.reloader machine).reloadAll reloadAttempts ids s
  (neverReloaded events, { s with log := s.log ++ events.map reloadRecord })

/-- Reloads rulesets by a command. -/
def reloadRulesets (machine : Machine) (text : String) (ids : List String) : SessionM Unit := do
  match ReloadCommand.parse? text with
  | none => Session.warn "Empty reload command, skipping reload"
  | some command =>
      let failed ← reloadEach machine command ids
      if failed.isEmpty then
        let count := ids.length
        Session.info s!"Reloaded {count} rulesets"
      else Session.warn ("Failed to reload: " ++ String.intercalate ", " failed)

/-- Reloads rulesets if a command is given. -/
def reloadIfAsked (machine : Machine) (command : Option String) (ids : List String) :
    SessionM Unit :=
  match command with
  | none => return ()
  | some text => reloadRulesets machine text ids

/-! ## Compiling -/

namespace CompileJob

/-- The lines of a file. -/
def fileLines (text : String) : List String := (Text.lines text.toList).map String.ofList

/-- Reads the lines of some files, in order. -/
def readInputs : List String → SessionM (Except CommandFault (List String))
  | [] => return .ok []
  | path :: paths => do
      match (← Session.getFiles).readText path with
      | .error fault => return .error (.unreadable path fault)
      | .ok text =>
          let lines := fileLines text
          let count := lines.length
          Session.info s!"Read {count} lines from '{path}'"
          match ← readInputs paths with
          | .error fault => return .error fault
          | .ok rest => return .ok (lines ++ rest)

/-- The lines that the job adds to those of its inputs. -/
def ownLines (job : CompileJob) : List String :=
  job.allow.map Allowlist.line ++ (Allowlist.invertedLine? job.only).toList

/-- Says what came of the chunks, the first of which has the given number. -/
def reportChunks (number : Nat) : List Conversion → SessionM Unit
  | [] => return ()
  | conversion :: conversions => do
      Session.info (s!"Chunk {number}:\n" ++ conversion.report)
      reportChunks (number + 1) conversions

/-- Converts lines on lanes and says what came of it. -/
def convert (job : CompileJob) (lines : List String) :
    SessionM (Except CommandFault Conversion.Merged) := do
  let outcome := Lanes.convert job.options job.lanes false lines
  match outcome.conversions with
  | none => return .error .cancelled
  | some conversions =>
      reportChunks 0 conversions
      Session.info s!"Total conversion errors: {outcome.counted}"
      return .ok (Conversion.merge conversions)

/-- The store to which the job writes. -/
def store (job : CompileJob) : RulesetStore := { directory := job.output }

/-- Converts lines and keeps the rules in the cache; that they cannot be kept is no failure. -/
def convertAndKeep (job : CompileJob) (fingerprint : UInt64) (lines : List String) :
    SessionM (Except CommandFault Conversion.Merged) := do
  match ← job.convert lines with
  | .error fault => return .error fault
  | .ok rules =>
      match ← job.store.saveCache fingerprint rules with
      | .ok () => return .ok rules
      | .error fault =>
          Session.warn fault.message
          return .ok rules

/-- The cached rules of a fingerprint, unless the job ignores the cache. -/
def cachedRules (job : CompileJob) (fingerprint : UInt64) : SessionM (Option Conversion.Merged) :=
  if job.useCache then job.store.loadCache fingerprint else return none

/-- The rules of some lines, from the cache or by converting them. -/
def rules (job : CompileJob) (lines : List String) :
    SessionM (Except CommandFault Conversion.Merged) := do
  let fingerprint := Fingerprint.ofConversion job.options job.lanes.chunkSize lines
  match ← job.cachedRules fingerprint with
  | some rules => return .ok rules
  | none => job.convertAndKeep fingerprint lines

/-- Writes the extended rules, if there are any. -/
def writeExtended (job : CompileJob) (text : Option String) : SessionM (Except StoreFault Unit) :=
  match text with
  | none => return .ok ()
  | some text => job.store.writeExtended text

/-- Says what has been written. -/
def printSummary (job : CompileJob) (chunkCount failures : Nat) : SessionM Unit :=
  let count := job.rulesetIds.length
  Session.print
    s!"Wrote {count} rulesets to '{job.output}' ({chunkCount} chunks, {failures} write failures)"

/-- Writes rules and says what has been written. -/
def write (job : CompileJob) (rules : Conversion.Merged) : SessionM (Except CommandFault Unit) := do
  let failures ← job.store.writeRulesets job.rulesetIds rules.chunks
  match ← job.writeExtended rules.extended with
  | .error fault => return .error (.store fault)
  | .ok () =>
      job.printSummary rules.chunks.length failures
      return .ok ()

/-- Writes rules and has them reloaded. -/
def writeAndReload (machine : Machine) (job : CompileJob) (rules : Conversion.Merged) :
    SessionM (Except CommandFault Unit) := do
  match ← job.write rules with
  | .error fault => return .error fault
  | .ok () =>
      reloadIfAsked machine job.reloadCommand job.rulesetIds
      return .ok ()

/-- Carries out the job. -/
def run (machine : Machine) (job : CompileJob) : SessionM (Except CommandFault Unit) := do
  if job.inputs.isEmpty then return .error .noInputs
  else if job.rulesetIds.isEmpty then return .error .noRulesetIds
  else
    match ← readInputs job.inputs with
    | .error fault => return .error fault
    | .ok lines =>
        match ← job.rules (lines ++ job.ownLines) with
        | .error fault => return .error fault
        | .ok rules => job.writeAndReload machine rules

end CompileJob
end FilterCompiler
