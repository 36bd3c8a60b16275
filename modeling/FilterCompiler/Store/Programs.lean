import FilterCompiler.Store.Reload
import FilterCompiler.Store.Session
import FilterCompiler.Text.Blank

/-!
# Reload commands

A reload command is a program and its first arguments; the identifier of the ruleset is the last
one. The program belongs to the machine, and nothing is known of what it does to files.
-/

namespace FilterCompiler

/-- How a program has ended. -/
inductive ExitStatus where
  | code (code : Nat)
  /-- A signal has ended the program. -/
  | signal (description : String)
deriving DecidableEq, Repr

namespace ExitStatus

/-- The program has done what it was asked. -/
def isSuccess : ExitStatus → Bool
  | code 0 => true
  | _ => false

/-- The wording of a status. -/
def text : ExitStatus → String
  | code n => s!"exit status: {n}"
  | signal description => "signal: " ++ description

end ExitStatus

/-- What comes of running a program. -/
structure ProgramRun where
  /-- How the program has ended, or why it could not be run. -/
  ending : Except String ExitStatus
  files : Files
  /-- The lines that it has put on the output. -/
  output : List String
  /-- The lines that it has put on the error output. -/
  errors : List String

/-- A machine, which tells what comes of running the program of a name with some arguments on some
files. It is told how many programs have been run before, so the same program may do something else
each time. -/
abbrev Machine := Nat → String → List String → Files → ProgramRun

/-- Runs a program of the machine. -/
def Session.runProgram (machine : Machine) (program : String) (args : List String) :
    SessionM (Except String ExitStatus) := fun s =>
  let run := machine s.runs program args s.files
  (run.ending,
    { s with
      files := run.files
      output := s.output ++ run.output
      errors := s.errors ++ run.errors
      runs := s.runs + 1 })

/-- Why a reload command fails. -/
inductive ReloadFault where
  /-- The program could not be run. -/
  | notRun (program reason : String)
  /-- The program has not done what it was asked. -/
  | ended (program : String) (status : ExitStatus)
deriving DecidableEq, Repr

/-- The wording of a fault. -/
def ReloadFault.message : ReloadFault → String
  | notRun program reason => "Failed to run '" ++ program ++ "': " ++ reason
  | ended program status => s!"'{program}' exited with {status.text}"

/-- A reload command. -/
structure ReloadCommand where
  program : String
  args : List String
deriving DecidableEq, Repr

namespace ReloadCommand

/-- The command that a text says, word by word; an empty text says none. -/
def parse? (text : String) : Option ReloadCommand :=
  match Text.words text.toList with
  | [] => none
  | program :: args => some { program := String.ofList program, args := args.map String.ofList }

/-- Asks for a ruleset to be reloaded by a program of the machine. -/
def reloadOn (machine : Machine) (command : ReloadCommand) (id : String) :
    SessionM (Except ReloadFault Unit) := do
  match ← Session.runProgram machine command.program (command.args ++ [id]) with
  | .error reason => return .error (.notRun command.program reason)
  | .ok status =>
      if status.isSuccess then return .ok () else return .error (.ended command.program status)

/-- The command as a reloader; what it remembers is the session. -/
def reloader (machine : Machine) (command : ReloadCommand) : Reloader Session ReloadFault :=
  fun id => command.reloadOn machine id

end ReloadCommand
end FilterCompiler
