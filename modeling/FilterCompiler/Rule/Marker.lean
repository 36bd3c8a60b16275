import FilterCompiler.Text.Split

/-!
# Cosmetic markers

The sign that tells the domains of a cosmetic rule from its content. `find?` cuts a line at its
leftmost marker; at one place at most one marker can stand, so the cut is unique. A line that begins
with `|` or `@` is a network rule and has no marker.
-/

namespace FilterCompiler

/-- The markers of cosmetic rules. -/
inductive Marker where
  | hide
  | hideException
  | hideExtended
  | hideExtendedException
  | style
  | styleException
  | styleExtended
  | styleExtendedException
  | script
  | scriptException
  | html
  | htmlException
deriving DecidableEq, Repr

namespace Marker

/-- How the marker is written. -/
def text : Marker → String
  | hide => "##"
  | hideException => "#@#"
  | hideExtended => "#?#"
  | hideExtendedException => "#@?#"
  | style => "#$#"
  | styleException => "#@$#"
  | styleExtended => "#$?#"
  | styleExtendedException => "#@$?#"
  | script => "#%#"
  | scriptException => "#@%#"
  | html => "$$"
  | htmlException => "$@$"

/-- The marker makes a rule an exception. -/
def isException : Marker → Bool
  | hideException | hideExtendedException | styleException | styleExtendedException
  | scriptException | htmlException => true
  | _ => false

/-- The marker asks for the extended selector engine. -/
def isExtended : Marker → Bool
  | hideExtended | hideExtendedException | styleExtended | styleExtendedException => true
  | _ => false

/-- The marker with which a text begins, and the rest of the text. -/
def atStart? : List Char → Option (Marker × List Char)
  | '#' :: '#' :: s => some (hide, s)
  | '#' :: '@' :: '#' :: s => some (hideException, s)
  | '#' :: '?' :: '#' :: s => some (hideExtended, s)
  | '#' :: '@' :: '?' :: '#' :: s => some (hideExtendedException, s)
  | '#' :: '$' :: '#' :: s => some (style, s)
  | '#' :: '@' :: '$' :: '#' :: s => some (styleException, s)
  | '#' :: '$' :: '?' :: '#' :: s => some (styleExtended, s)
  | '#' :: '@' :: '$' :: '?' :: '#' :: s => some (styleExtendedException, s)
  | '#' :: '%' :: '#' :: s => some (script, s)
  | '#' :: '@' :: '%' :: '#' :: s => some (scriptException, s)
  | '$' :: '$' :: s => some (html, s)
  | '$' :: '@' :: '$' :: s => some (htmlException, s)
  | _ => none

/-- A line cut at a marker. -/
structure Cut where
  /-- What stands before the marker. -/
  domains : List Char
  marker : Marker
  /-- What stands after the marker. -/
  content : List Char
deriving DecidableEq, Repr

/-- Cuts a text at its leftmost marker. -/
def search? : List Char → Option Cut
  | [] => none
  | c :: s =>
      match atStart? (c :: s) with
      | some (marker, content) => some { domains := [], marker, content }
      | none => (search? s).map fun cut => { cut with domains := c :: cut.domains }

/-- The line can only be a network rule. -/
def isNetworkLine (line : List Char) : Bool :=
  decide (Text.byteLength line ≤ 2) || line.head? == some '|' || line.head? == some '@'

/-- Cuts a line at its leftmost marker, if it is a cosmetic rule. -/
def find? (line : List Char) : Option Cut :=
  if isNetworkLine line then none else search? line

/-- The line at the cut with another marker and another content. -/
def Cut.rebuild (cut : Cut) (marker : Marker) (content : List Char) : List Char :=
  cut.domains ++ marker.text.toList ++ content

end Marker
end FilterCompiler
