import FilterCompiler.Text.Split

/-!
# Paths

A path is a text in which slashes separate names. `join` puts a name behind a directory and `parent`
takes the last name away. A place is where a path leads: the names on the straight way from the
working directory, an empty name in front if the way begins at the root.
-/

namespace FilterCompiler
namespace Path

/-- The path of a name in a directory. A name that begins with a slash is a path of its own. -/
def join (directory name : String) : String :=
  if Text.beginsWith ['/'] name.toList || directory = "" then name
  else if Text.endsWithChar '/' directory.toList then directory ++ name
  else directory ++ "/" ++ name

/-- A path, given in reverse, without the slashes and the names `.` at its end; one at the start of
the path stays. -/
def trimReversed : List Char → List Char
  | '/' :: path => trimReversed path
  | '.' :: '/' :: path => trimReversed path
  | path => path

/-- The path without its last name. -/
def parent (path : String) : String :=
  match Text.breakAtLast? '/' path.toList with
  | none => ""
  | some (directory, _) =>
      let trimmed := (trimReversed directory.reverse).reverse
      if trimmed.isEmpty then "/" else String.ofList trimmed

/-- The place of the directory above a place. -/
def above (place : List String) : List String :=
  match place.getLast? with
  | none | some ".." => place ++ [".."]
  | some "" => place
  | some _ => place.dropLast

/-- The place that a name leads to from the place of a directory. -/
def enter (place : List String) (name : String) : List String :=
  if name = "." then place else if name = ".." then above place else place ++ [name]

/-- The names in a path. A slash at the end asks for a directory, as the name `.` does. -/
def names (path : String) : List String :=
  let pieces := (Text.splitOn '/' path.toList).filter (!·.isEmpty)
  pieces.map String.ofList ++ (if Text.endsWithChar '/' path.toList then ["."] else [])

/-- The place from which the names of a path lead on: the root or the working directory. -/
def start (path : String) : List String :=
  if Text.beginsWith ['/'] path.toList then [""] else []

/-- The place is a directory whatever files there are: the working directory, one above it, or the
root. -/
def isAnchor (place : List String) : Bool := place.all (· == "..") || place == [""]

/-- The path of a place. -/
def ofNames (place : List String) : String := String.intercalate "/" place

/-- The greatest number of bytes in a name. -/
def nameLimit : Nat := 255

end Path
end FilterCompiler
