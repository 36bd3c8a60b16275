import FilterCompiler.Store.Programs

/-!
# A machine with four programs

Programs that succeed, fail, compare texts or make files: enough of a machine to try reload commands
on.
-/

namespace FilterCompiler
namespace Machine

/-- Makes a file if there is nothing at its path. -/
def touchFile (files : Files) (path : String) : Except FileFault Files :=
  match files.find path with
  | .ok _ => .ok files
  | .error .notFound => files.write path ByteArray.empty
  | .error fault => .error fault

/-- What is said of a fault, without its number. -/
def briefly : FileFault → String
  | .notFound => "No such file or directory"
  | .alreadyExists => "File exists"
  | .notDirectory => "Not a directory"
  | .isDirectory => "Is a directory"
  | .nameTooLong => "File name too long"
  | .zeroInName => "Invalid argument"
  | .notText => "Invalid argument"

/-- Makes the files that are missing, and says which cannot be made. -/
def touch (files : Files) : List String → Files × List String
  | [] => (files, [])
  | path :: paths =>
      match touchFile files path with
      | .ok files => touch files paths
      | .error fault =>
          let (files, errors) := touch files paths
          (files, s!"touch: cannot touch '{path}': {briefly fault}" :: errors)

/-- Compares two texts, or asks whether one is there; more than a comparison is a fault. -/
def test : List String → Nat × List String
  | [] => (1, [])
  | [text] => (if text = "" then 1 else 0, [])
  | [first, "=", second] => (if first = second then 0 else 1, [])
  | _ :: "=" :: _ :: extra :: _ => (2, [s!"test: extra argument '{extra}'"])
  | _ => (2, [])

/-- The machine with `true`, `false`, `test` and `touch`. -/
def small : Machine := fun _ program args files =>
  let ended (code : Nat) (files : Files) (errors : List String) : ProgramRun :=
    { ending := .ok (.code code), files, output := [], errors }
  match program with
  | "true" => ended 0 files []
  | "false" => ended 1 files []
  | "test" =>
      let (code, errors) := test args
      ended code files errors
  | "touch" =>
      let (files, errors) := touch files args
      ended (if errors.isEmpty then 0 else 1) files errors
  | _ => { ending := .error FileFault.notFound.message, files, output := [], errors := [] }

end Machine

/-- Asks for a ruleset to be reloaded by one of the four programs. -/
def ReloadCommand.reload (command : ReloadCommand) (id : String) :
    SessionM (Except ReloadFault Unit) :=
  command.reloadOn .small id

end FilterCompiler
