import FilterCompiler.Command.Run

/-!
# The program

The outermost layer: it takes the files that a command is about from the disk, runs the command on
them, and puts back what has changed.
-/

namespace FilterCompiler
namespace Main

/-- Takes what is at a path from the disk. -/
def load (files : Files) (path : String) : IO Files := do
  match ← (IO.FS.readBinFile path).toBaseIO with
  | .ok content =>
      let files := (files.makeDirectories (Path.parent path)).2
      return (files.write path content).toOption.getD files
  | .error (.inappropriateType ..) => return (files.makeDirectories path).2
  | .error _ => return files

/-- Puts a node on the disk, unless it is there already. -/
def store (before : Files) (place : List String) (node : Node) : IO Unit := do
  if before.node? place == some node then return
  match node with
  | .directory => IO.FS.createDirAll (Path.ofNames place)
  | .file content => IO.FS.writeBinFile (Path.ofNames place) content

/-- Takes a node from the disk if it is gone. -/
def forget (after : Files) (place : List String) : IO Unit := do
  if (after.node? place).isNone then IO.FS.removeFile (Path.ofNames place)

/-- Puts what has changed back on the disk. -/
def save (before after : Files) : IO Unit := do
  for (place, _) in before.nodes do
    forget after place
  for (place, node) in after.nodes.reverse do
    store before place node

end Main
end FilterCompiler

open FilterCompiler in
/-- Runs the program. -/
def main (words : List String) : IO UInt32 := do
  match Arguments.read words with
  | none =>
      IO.eprintln "error: invalid arguments"
      return 2
  | some i =>
      let files ← i.command.paths.foldlM Main.load Files.empty
      let result := RunResult.ofInvocation .small i files
      Main.save files result.session.files
      for record in result.session.log do
        IO.eprintln (record.level.name ++ " " ++ record.message)
      for line in result.session.output do
        IO.println line
      for line in result.session.errors do
        IO.eprintln line
      return UInt32.ofNat result.status
