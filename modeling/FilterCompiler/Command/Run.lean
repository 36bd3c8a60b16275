import FilterCompiler.Command.Disable
import FilterCompiler.Command.Validate
import FilterCompiler.Store.Machine

/-!
# Running the program

A run reads its arguments, carries out the command and ends with a status: 0 if all went well, 1 if
the command failed, 2 if the arguments were refused.
-/

namespace FilterCompiler

/-- Carries out a command. -/
def Command.run (machine : Machine) : Command → SessionM (Except CommandFault Unit)
  | compile job => job.run machine
  | validate input version => validateRuleset input version
  | disable job => job.run machine

/-- The paths of a store that a command may look at or write. -/
def RulesetStore.paths (store : RulesetStore) (ids : List String) : List String :=
  store.cachePath :: store.extendedPath :: ids.map store.rulesetPath

/-- The paths that a command may look at or write, reload commands apart. -/
def Command.paths : Command → List String
  | compile job => job.inputs ++ job.store.paths job.rulesetIds
  | validate input _ => [input]
  | disable job => job.store.paths job.rulesetIds

/-- What a run has come to. -/
structure RunResult where
  status : Nat
  session : Session

namespace RunResult

/-- The records that are shown. -/
def shownLog (verbose : Bool) (log : List LogRecord) : List LogRecord :=
  if verbose then log else log.filter (·.level != .debug)

/-- Carries out what the program is asked to do. -/
def ofInvocation (machine : Machine) (i : Invocation) (files : Files) : RunResult :=
  let (result, session) := i.command.run machine (Session.start files)
  let session := { session with log := shownLog i.verbose session.log }
  match result with
  | .ok () => { status := 0, session }
  | .error fault =>
      { status := 1
        session := { session with errors := session.errors ++ ["Error: " ++ fault.message] } }

/-- Runs the program with some words on some files; four programs can be asked to reload. -/
def ofWords (words : List String) (files : Files) : RunResult :=
  match Arguments.read words with
  | none => { status := 2, session := Session.start files }
  | some i => ofInvocation .small i files

end RunResult
end FilterCompiler
