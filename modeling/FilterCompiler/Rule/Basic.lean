import FilterCompiler.Rule.Cosmetic
import FilterCompiler.Rule.Network

/-!
# Rules

A rule is about requests or about the content of pages. `ofLine` reads a line in canonical form;
blank lines and comments are no rules and no errors.
-/

namespace FilterCompiler

/-- A rule of a filter list. -/
inductive Rule where
  | network (rule : NetworkRule)
  | cosmetic (rule : CosmeticRule)
deriving DecidableEq

namespace Rule

/-- What every rule has. -/
def header : Rule → Header
  | network rule => rule.header
  | cosmetic rule => rule.header

/-- The line from which the rule was read. -/
def text (rule : Rule) : String := rule.header.text

/-- The line is a comment: `!` in front, `#` alone or before a space, or a title in brackets. -/
def isComment (line : List Char) : Bool :=
  match line with
  | '!' :: _ => true
  | '#' :: s => s.isEmpty || s.head? == some ' '
  | '[' :: s => s.head? != some '$' && Text.endsWithChar ']' line
  | _ => false

/-- The line holds no rule. -/
def isSkipped (line : List Char) : Bool := line.isEmpty || isComment line

/-- Reads a line in canonical form. -/
def ofLine [DomainEncoder] (version : HostVersion) (line : String) :
    Except LineError (Option Rule) :=
  if isSkipped line.toList then .ok none
  else if Text.byteLength line.toList < 3 then .error .shortLine
  else
    match Marker.find? line.toList with
    | some cut => (CosmeticRule.ofCut version line cut).map (some ∘ cosmetic)
    | none => (NetworkRule.parse version line).map (some ∘ network)

end Rule
end FilterCompiler
