import FilterCompiler.Host.Version
import FilterCompiler.Text.Split

/-!
# Extended selectors

Some selectors go beyond what the host's own engine knows. They are recognised by an attribute that
begins with `-ext-` or by the name of a pseudo-class between a colon and a parenthesis.
-/

namespace FilterCompiler
namespace Selector

/-- The pseudo-classes that need the extended engine. -/
def extendedPseudoClasses : List String :=
  ["has", "is", "has-text", "contains", "matches-css", "if", "if-not", "xpath", "nth-ancestor",
   "upward", "remove", "matches-attr", "matches-property"]

/-- How the attributes of the extended engine begin. -/
def extendedAttribute : List Char := "[-ext-".toList

/-- How the pseudo-classes of one dialect begin. -/
def dialectLead : List Char := "-abp-".toList

/-- The host's own engine knows this pseudo-class. -/
def isNative (version : HostVersion) (name : String) : Bool :=
  (name == "has" && version.supportsNativeHas) || (name == "is" && version.supportsNativeIs)

/-- The pseudo-class of this name needs the extended engine. -/
def isExtendedName (version : HostVersion) (name : List Char) : Bool :=
  decide (2 ≤ Text.byteLength name) && !isNative version (String.ofList name)
    && (Text.beginsWith dialectLead name || extendedPseudoClasses.contains (String.ofList name))

/-- Looks for extended syntax in the rest of a selector. `name` holds, in reverse, what has been read
since a colon that no parenthesis has followed. -/
def scan (version : HostVersion) (name : Option (List Char)) : List Char → Bool
  | [] => false
  | c :: s =>
      if Text.beginsWith extendedAttribute (c :: s) then true
      else if c = ':' then scan version (some []) s
      else if c = '(' then
        name.any (fun n => isExtendedName version n.reverse) || scan version none s
      else scan version (name.map (c :: ·)) s

/-- The selector needs the extended engine on this host. -/
def isExtended (version : HostVersion) (selector : List Char) : Bool :=
  decide (6 ≤ Text.byteLength selector) && scan version none selector

end Selector
end FilterCompiler
