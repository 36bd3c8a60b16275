import FilterCompiler.Text.Split

/-!
# Lines of a text

A line ends at a line feed; one carriage return right before that line feed belongs to the end of
the line. A text that ends with a line feed has no further empty line, and a carriage return at the
very end of a text belongs to its last line.
-/

namespace FilterCompiler
namespace Text

/-- The line whose characters, in reverse, are given, when a line feed follows it. -/
def closeLine : List Char → List Char
  | '\r' :: line => line.reverse
  | line => line.reverse

/-- Adds to `done`, in reverse, the lines of a text whose current line, in reverse, is `line`. -/
def linesFrom (done : List (List Char)) (line : List Char) : List Char → List (List Char)
  | [] => if line.isEmpty then done.reverse else (line.reverse :: done).reverse
  | c :: s =>
      if c = '\n' then linesFrom (closeLine line :: done) [] s
      else linesFrom done (c :: line) s

/-- The lines of a text, without their ends. -/
def lines (s : List Char) : List (List Char) := linesFrom [] [] s

end Text
end FilterCompiler
