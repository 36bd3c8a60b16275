import FilterCompiler.Pattern.Host
import FilterCompiler.Rule.Error

/-!
# Rule headers

What every rule has, whatever its kind: its text, whether it is an exception or important, and the
domains on which it applies. A list of domains is read item by item; `~` in front of an item excludes
it.
-/

namespace FilterCompiler

/-- The domains on which a rule applies: all but the restricted ones, and if any are permitted then
these only. -/
structure DomainScope where
  permitted : List String
  restricted : List String
deriving DecidableEq, Repr

namespace DomainScope

/-- The scope of a rule without domains. -/
def everywhere : DomainScope := { permitted := [], restricted := [] }

/-- The domains of two scopes, in order. -/
instance : Append DomainScope :=
  ⟨fun a b => { permitted := a.permitted ++ b.permitted, restricted := a.restricted ++ b.restricted }⟩

/-- The scope with one more restricted domain. -/
def restrict (scope : DomainScope) (domain : String) : DomainScope :=
  { scope with restricted := scope.restricted ++ [domain] }

end DomainScope

/-! ## Domain lists -/

/-- An item of a domain list. -/
structure DomainItem where
  isExcluded : Bool
  domain : String
deriving DecidableEq, Repr

namespace DomainItem

/-- Reads an item of a domain list without its tilde. -/
def readDomain [DomainEncoder] (item : List Char) : Except DomainFault String :=
  if item.isEmpty then .error .empty
  else if '~' ∈ item then .error .innerTilde
  else if Text.byteLength item < 2 then .error (.tooShort (String.ofList item))
  else if Pattern.isLiteralRegex (String.ofList item) then .error .isRegex
  else
    match Domain.toAscii (String.ofList item) with
    | some domain => .ok domain
    | none => .error (.notEncodable (String.ofList item))

/-- Reads an item of a domain list. -/
def read [DomainEncoder] (item : List Char) : Except DomainFault DomainItem :=
  let (isExcluded, item) := Text.cutTilde item
  match readDomain item with
  | .ok domain => .ok { isExcluded, domain }
  | .error fault => .error fault

/-- Reads the items of a domain list, in order. -/
def readAll [DomainEncoder] : List (List Char) → Except DomainFault (List DomainItem)
  | [] => .ok []
  | item :: items =>
      match read item with
      | .error fault => .error fault
      | .ok first =>
          match readAll items with
          | .error fault => .error fault
          | .ok rest => .ok (first :: rest)

end DomainItem

namespace DomainScope

/-- The scope that a list of items says. -/
def ofItems (items : List DomainItem) : DomainScope :=
  { permitted := (items.filter (!·.isExcluded)).map DomainItem.domain
    restricted := (items.filter (·.isExcluded)).map DomainItem.domain }

/-- Reads a domain list whose items stand between the characters `sep`. -/
def ofList [DomainEncoder] (sep : Char) (list : List Char) : Except DomainFault DomainScope :=
  match DomainItem.readAll (Text.splitOn sep list) with
  | .ok items => .ok (ofItems items)
  | .error fault => .error fault

end DomainScope

/-! ## Headers -/

/-- What every rule has. -/
structure Header where
  /-- The line from which the rule was read. -/
  text : String
  isException : Bool
  isImportant : Bool
  scope : DomainScope
deriving DecidableEq, Repr

end FilterCompiler
