import FilterCompiler.Conversion.Basic

/-!
# Conversion in chunks

A long list is cut into chunks of the same size, each of which becomes a ruleset of its own. The
results are merged by handing on every ruleset and joining the extended rules.
-/

namespace FilterCompiler

/-- A list of lines that is cut into chunks of `size` lines; the last chunk may be shorter. -/
structure ChunkedLines where
  lines : Array String
  size : Nat
  size_pos : 0 < size

namespace ChunkedLines

/-- Cuts a list; a size of zero counts as one. -/
def ofLines (size : Nat) (lines : List String) : ChunkedLines :=
  { lines := lines.toArray, size := max 1 size, size_pos := by omega }

/-- The number of chunks. -/
def count (c : ChunkedLines) : Nat :=
  c.lines.size / c.size + if c.lines.size % c.size = 0 then 0 else 1

/-- The number of lines before a chunk. -/
def start (c : ChunkedLines) (index : Nat) : Nat := index * c.size

/-- The number of lines up to the end of a chunk. -/
def stop (c : ChunkedLines) (index : Nat) : Nat := min (c.start index + c.size) c.lines.size

/-- The lines of a chunk. -/
def chunk (c : ChunkedLines) (index : Nat) : List String :=
  (c.lines.extract (c.start index) (c.stop index)).toList

end ChunkedLines

namespace Conversion

/-- What is said of a conversion in chunks that has been cancelled. -/
def cancelledMessage : String := "Conversion cancelled"

/-- The rulesets and the extended rules of some conversions. -/
structure Merged where
  chunks : List String
  extended : Option String
deriving DecidableEq, Repr

/-- Hands on every ruleset and joins the extended rules. -/
def merge (conversions : List Conversion) : Merged :=
  { chunks := conversions.map Conversion.json
    extended :=
      match conversions.filterMap Conversion.extendedText with
      | [] => none
      | texts => some (String.intercalate "\n" texts) }

end Conversion
end FilterCompiler
