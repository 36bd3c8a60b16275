import FilterCompiler.Store.Files

/-!
# Sessions

A session works on files and says what it does: in log records, on its output, and on its error
output.
-/

namespace FilterCompiler

/-- How much a log record matters. -/
inductive LogLevel where
  | debug
  | info
  | warn
deriving DecidableEq, Repr

/-- How a level is written. -/
def LogLevel.name : LogLevel → String
  | debug => "DEBUG"
  | info => "INFO"
  | warn => "WARN"

/-- Something that is said in the log. -/
structure LogRecord where
  level : LogLevel
  message : String
deriving DecidableEq, Repr

/-- What a session has done. -/
structure Session where
  files : Files
  log : List LogRecord
  /-- The lines on the output. -/
  output : List String
  /-- The lines on the error output. -/
  errors : List String
  /-- How many programs have been run. -/
  runs : Nat

/-- An action of a session. -/
abbrev SessionM (α : Type) := StateM Session α

namespace Session

/-- A session that has said nothing. -/
def start (files : Files) : Session := { files, log := [], output := [], errors := [], runs := 0 }

/-- The files of the session. -/
def getFiles : SessionM Files := fun s => (s.files, s)

/-- Sets the files of the session. -/
def setFiles (files : Files) : SessionM Unit := fun s => ((), { s with files })

/-- Says something in the log. -/
def say (level : LogLevel) (message : String) : SessionM Unit :=
  fun s => ((), { s with log := s.log ++ [{ level, message }] })

/-- Says something that matters to those who look into the program only. -/
def debug (message : String) : SessionM Unit := say .debug message

/-- Says what has been done. -/
def info (message : String) : SessionM Unit := say .info message

/-- Says what has gone wrong. -/
def warn (message : String) : SessionM Unit := say .warn message

/-- Puts a line on the output. -/
def print (line : String) : SessionM Unit := fun s => ((), { s with output := s.output ++ [line] })

/-- Puts a line on the error output. -/
def printError (line : String) : SessionM Unit :=
  fun s => ((), { s with errors := s.errors ++ [line] })

end Session
end FilterCompiler
