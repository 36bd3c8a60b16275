import FilterCompiler.Store.Path

/-!
# Files

The files and directories below a working directory, as a value. The operations refuse what a file
system refuses, and say why in its words; an operation that is refused leaves everything as it is,
only that directories made on the way stay.
-/

namespace FilterCompiler

/-- What is found at a place. -/
inductive Node where
  | directory
  | file (content : ByteArray)

instance : DecidableEq Node
  | .directory, .directory => isTrue rfl
  | .directory, .file _ | .file _, .directory => isFalse nofun
  | .file a, .file b =>
      decidable_of_iff (a.data = b.data) (by rw [Node.file.injEq, ByteArray.ext_iff])

/-- Why an operation on files is refused. -/
inductive FileFault where
  | notFound
  | alreadyExists
  | notDirectory
  | isDirectory
  | nameTooLong
  | zeroInName
  | notText
deriving DecidableEq, Repr

/-- The wording of a fault. -/
def FileFault.message : FileFault → String
  | notFound => "No such file or directory (os error 2)"
  | alreadyExists => "File exists (os error 17)"
  | notDirectory => "Not a directory (os error 20)"
  | isDirectory => "Is a directory (os error 21)"
  | nameTooLong => "File name too long (os error 36)"
  | zeroInName => "file name contained an unexpected NUL byte"
  | notText => "stream did not contain valid UTF-8"

/-- The nodes below the working directory, each with the names that lead to it. -/
structure Files where
  nodes : List (List String × Node)

namespace Files

/-- The working directory before anything is in it. -/
def empty : Files := { nodes := [] }

/-- The node at a place. -/
def node? (files : Files) (place : List String) : Option Node :=
  if Path.isAnchor place then some .directory else files.nodes.lookup place

/-- The files without the node at a place. -/
def erase (files : Files) (place : List String) : Files :=
  { nodes := files.nodes.filter (·.1 != place) }

/-- The files with a node at a place. -/
def put (files : Files) (place : List String) (node : Node) : Files :=
  { nodes := (place, node) :: (files.erase place).nodes }

/-- The place to which some names lead from a place; all but the last have to lead to
directories. -/
def follow (files : Files) (place : List String) : List String → Except FileFault (List String)
  | [] => .ok place
  | name :: names =>
      match files.node? place with
      | none => .error .notFound
      | some (.file _) => .error .notDirectory
      | some .directory =>
          if Path.nameLimit < name.utf8ByteSize then .error .nameTooLong
          else files.follow (Path.enter place name) names

/-- The place of a path. -/
def locate (files : Files) (path : String) : Except FileFault (List String) :=
  if path.toList.contains '\x00' then .error .zeroInName
  else if path = "" then .error .notFound
  else files.follow (Path.start path) (Path.names path)

/-- The node of a path. -/
def find (files : Files) (path : String) : Except FileFault Node :=
  match files.locate path with
  | .error fault => .error fault
  | .ok place =>
      match files.node? place with
      | none => .error .notFound
      | some node => .ok node

/-- The content of the file of a path. -/
def read (files : Files) (path : String) : Except FileFault ByteArray :=
  match files.find path with
  | .ok (.file content) => .ok content
  | .ok .directory => .error .isDirectory
  | .error fault => .error fault

/-- The text in the file of a path. -/
def readText (files : Files) (path : String) : Except FileFault String :=
  match files.read path with
  | .error fault => .error fault
  | .ok content =>
      match String.fromUTF8? content with
      | some text => .ok text
      | none => .error .notText

/-- The content of the file of a path becomes `content`; the file is made if its directory is
there. -/
def write (files : Files) (path : String) (content : ByteArray) : Except FileFault Files :=
  match files.locate path with
  | .error fault => .error fault
  | .ok place =>
      match files.node? place with
      | some .directory => .error .isDirectory
      | some (.file _) | none => .ok (files.put place (.file content))

/-- Removes the file of a path. -/
def remove (files : Files) (path : String) : Except FileFault Files :=
  match files.locate path with
  | .error fault => .error fault
  | .ok place =>
      match files.node? place with
      | some .directory => .error .isDirectory
      | some (.file _) => .ok (files.erase place)
      | none => .error .notFound

/-- Makes the directories that are missing along some names, from the place of a directory. -/
def makeAlong (files : Files) (place : List String) : List String → Except FileFault Unit × Files
  | [] => (.ok (), files)
  | name :: names =>
      if Path.nameLimit < name.utf8ByteSize then (.error .nameTooLong, files)
      else
        let next := Path.enter place name
        match files.node? next with
        | some .directory => files.makeAlong next names
        | some (.file _) =>
            (.error (if names.isEmpty then .alreadyExists else .notDirectory), files)
        | none => (files.put next .directory).makeAlong next names

/-- Makes the directory of a path and those on the way to it, as far as they are missing. -/
def makeDirectories (files : Files) (path : String) : Except FileFault Unit × Files :=
  if path.toList.contains '\x00' then (.error .zeroInName, files)
  else files.makeAlong (Path.start path) (Path.names path)

end Files
end FilterCompiler
