import FilterCompiler.Idna.Composition
import FilterCompiler.Idna.Direction
import FilterCompiler.Idna.Joiner
import FilterCompiler.Idna.Mapping
import FilterCompiler.Idna.Punycode

/-!
# Host names in ASCII

`toAscii` writes a host name with ASCII characters only: its characters are mapped and composed, and
each label with characters beyond ASCII is checked and written in Punycode after `xn--`. Lengths,
hyphens and ASCII symbols are not looked at.
-/

namespace FilterCompiler
namespace Idna

/-- What marks a label as written in Punycode. -/
def encodedLead : List Char := ['x', 'n', '-', '-']

/-- The greatest number of characters in a label that is to be written in Punycode. -/
def encodeLimit : Nat := 1000

/-- The greatest number of characters after the lead of a label that is read. -/
def decodeLimit : Nat := 2000

/-- A label of a host name: how it is shown and how it is written. -/
structure Label where
  shown : List Char
  written : List Char

/-- The label may be shown: it does not begin with a mark, and its joiners have their place. -/
def isShowable (label : List Char) : Bool :=
  !(label.head?.any isMark) && okJoiners label

/-- The label that a text written in Punycode stands for, if its characters are valid and composed
and not all of them are ASCII. -/
def readEncoded? (code : List Char) : Option (List Char) :=
  if decodeLimit < code.length then none
  else
    match Punycode.decode? code with
    | none => none
    | some label =>
        if label.all Text.isAscii || !label.all isValid || compose label != label then none
        else some label

/-- Reads a label that has been mapped and composed. -/
def readLabel? (text : List Char) : Option Label :=
  match Text.dropLead? encodedLead text with
  | some code =>
      match readEncoded? code with
      | none => none
      | some label => if isShowable label then some { shown := label, written := text } else none
  | none =>
      if text.all Text.isAscii then some { shown := text, written := text }
      else if isShowable text && text.length ≤ encodeLimit then
        some { shown := text, written := encodedLead ++ Punycode.encode text }
      else none

/-- The labels of a host name. -/
def labels? (host : List Char) : Option (List Label) :=
  match mapText host with
  | none => none
  | some mapped => (Text.splitOn '.' (compose mapped)).mapM readLabel?

/-- The host name in ASCII, if it can be written so. -/
def toAscii (host : String) : Option String :=
  match labels? host.toList with
  | none => none
  | some labels =>
      if okDirections (labels.map Label.shown) then
        some (String.ofList (Text.joinWith ['.'] (labels.map Label.written)))
      else none

end Idna
end FilterCompiler
