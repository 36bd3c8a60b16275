import FilterCompiler.Domain
import FilterCompiler.Idna.Encoding

/-!
# The host of a pattern

A pattern such as `||example.org^` or `|https://example.org/path` begins with a host. `splitHost?`
cuts the pattern into what stands before the host, the host and the rest, and `encodeHost` puts the
host in ASCII in the place of its first occurrence. How it is written in ASCII is left to a
`DomainEncoder`; unless another one is given, `Idna.toAscii` is used.
-/

namespace FilterCompiler

/-- A way to write host names in ASCII. -/
class DomainEncoder where
  /-- The host name in ASCII, if it can be written so. -/
  toAscii : String → Option String

instance : DomainEncoder where
  toAscii := Idna.toAscii

namespace Domain

/-- A domain in ASCII; an ASCII domain stays as it is, so that wildcards survive. -/
def toAscii [DomainEncoder] (domain : String) : Option String :=
  if domain.toList.all Text.isAscii then some domain else DomainEncoder.toAscii domain

end Domain

namespace Pattern

/-- What may stand before the host. -/
def hostLeads : List String :=
  ["||", "@@||", "|https://", "|http://", "@@|https://", "@@|http://", "|ws://", "|wss://",
   "@@|ws://", "@@|wss://", "//", "://", "@@//", "@@://", "https://", "http://", "@@https://",
   "@@http://"]

/-- The longest of the given leads with which the pattern begins, or nothing. -/
def longestLead (pattern : List Char) : List (List Char) → List Char
  | [] => []
  | lead :: leads =>
      let best := longestLead pattern leads
      if Text.beginsWith lead pattern && best.length < lead.length then lead else best

/-- The fewest bytes that a host has. -/
def shortestHost : Nat := 5

/-- The character ends the host. -/
def endsHost (c : Char) : Bool := c == '^' || c == '/' || c == '$'

/-- The character may begin a host. -/
def isHostStart (c : Char) : Bool := Domain.isAlphanumeric c || !Text.isAscii c

/-- The character may stand in a host. -/
def isHostChar (c : Char) : Bool := isHostStart c || c == '-' || c == '.'

/-- A pattern cut at its host. -/
structure HostSplit where
  /-- What stands before the host. -/
  lead : List Char
  host : List Char
  /-- What stands after the host. -/
  rest : List Char
deriving DecidableEq, Repr

/-- More than the sign that ends the host follows it. -/
def HostSplit.hasPath (s : HostSplit) : Bool := decide (1 < Text.byteLength s.rest)

/-- Cuts a pattern at its host, if it has one that is well formed. -/
def splitHost? (pattern : List Char) : Option HostSplit :=
  let lead := longestLead pattern (hostLeads.map String.toList)
  let body := pattern.drop lead.length
  let host := body.takeWhile (!endsHost ·)
  let rest := body.dropWhile (!endsHost ·)
  if host.head?.any isHostStart && host.all isHostChar
      && !(rest.isEmpty && Text.endsWithChar '.' host)
      && shortestHost ≤ Text.byteLength host then
    some { lead, host, rest }
  else none

/-- Writes the host of a pattern with the given encoding. The pattern stays as it is if it has no
host, if the host is ASCII already, or if its encoded form is no host name; there is no answer if
the host cannot be encoded. -/
def encodeHostWith (encode : String → Option String) (pattern : String) : Option String :=
  match splitHost? pattern.toList with
  | none => some pattern
  | some split =>
      if split.host.all Text.isAscii then some pattern
      else
        match encode (String.ofList split.host) with
        | none => none
        | some encoded =>
            if Domain.looksLikeHost encoded then
              some (String.ofList (Text.replaceFirst split.host encoded.toList pattern.toList))
            else some pattern

/-- Writes the host of a pattern in ASCII. -/
def encodeHost [DomainEncoder] (pattern : String) : Option String :=
  encodeHostWith DomainEncoder.toAscii pattern

end Pattern
end FilterCompiler
