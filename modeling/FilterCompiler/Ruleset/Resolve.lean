import FilterCompiler.Rule.Basic
import Std.Data.HashMap

/-!
# Resolving exceptions

Two kinds of rules act on other rules of the list: badfilter rules take network rules out, and
cosmetic exceptions narrow the domains of cosmetic rules with the same content. Both are gone after
`resolve`. The rules they act on are looked up by pattern and by content.
-/

namespace FilterCompiler

/-! ## Narrowing a scope -/

namespace DomainScope

/-- The scope without one domain and its subdomains; no answer if nothing is left. A host that takes
one kind of list only keeps the permitted domains above the excluded one. -/
def exclude (version : HostVersion) (scope : DomainScope) (domain : String) :
    Option DomainScope :=
  if scope.permitted.isEmpty then
    some (if scope.restricted.contains domain then scope else scope.restrict domain)
  else
    let permitted := scope.permitted.filter (!Domain.isWithin · domain)
    if permitted.isEmpty then none
    else
      let restrict := version.supportsMixedDomainScope && !scope.restricted.contains domain
        && permitted.any (Domain.isWithin domain ·)
      some
        { permitted
          restricted := if restrict then scope.restricted ++ [domain] else scope.restricted }

/-- The scope without some domains. -/
def excludeAll (version : HostVersion) (scope : DomainScope) : List String → Option DomainScope
  | [] => some scope
  | domain :: domains =>
      match scope.exclude version domain with
      | none => none
      | some scope => scope.excludeAll version domains

/-- The scope without the domains of an exception; an exception without domains leaves nothing. -/
def except (version : HostVersion) (scope exception : DomainScope) : Option DomainScope :=
  if exception.permitted.isEmpty then none else scope.excludeAll version exception.permitted

/-- The scope without the domains of some exceptions. -/
def exceptAll (version : HostVersion) (scope : DomainScope) : List DomainScope → Option DomainScope
  | [] => some scope
  | exception :: exceptions =>
      match scope.except version exception with
      | none => none
      | some scope => scope.exceptAll version exceptions

end DomainScope

/-- The rule narrowed by exceptions with the same content. -/
def CosmeticRule.narrow (version : HostVersion) (rule : CosmeticRule)
    (exceptions : List CosmeticRule) : Option CosmeticRule :=
  (rule.header.scope.exceptAll version (exceptions.map (·.header.scope))).map fun scope =>
    { rule with header := { rule.header with scope } }

/-! ## The four classes of rules -/

/-- The rule as a network rule that stays in the list. -/
def Rule.plainNetwork? : Rule → Option NetworkRule
  | network rule => if rule.isBadfilter then none else some rule
  | cosmetic _ => none

/-- The rule as a badfilter rule. -/
def Rule.badfilter? : Rule → Option NetworkRule
  | network rule => if rule.isBadfilter then some rule else none
  | cosmetic _ => none

/-- The rule as a cosmetic rule that stays in the list. -/
def Rule.plainCosmetic? : Rule → Option CosmeticRule
  | cosmetic rule => if rule.header.isException then none else some rule
  | network _ => none

/-- The rule as a cosmetic exception. -/
def Rule.cosmeticException? : Rule → Option CosmeticRule
  | cosmetic rule => if rule.header.isException then some rule else none
  | network _ => none

/-! ## Looking up -/

/-- The items of a list under the keys they have, in order. -/
def groupByKey {α : Type} (key : α → String) (items : List α) : Std.HashMap String (List α) :=
  items.foldr (fun item index => index.insert (key item) (item :: index.getD (key item) [])) ∅

/-! ## Resolving -/

/-- How many rules were read, stayed, acted, and were taken out. -/
structure ResolveStats where
  before : Nat
  after : Nat
  badfilterRules : Nat
  badfilteredRules : Nat
  cosmeticExceptions : Nat
  cosmeticRemoved : Nat
deriving DecidableEq, Repr

/-- What is left of a list of rules. -/
structure Resolved where
  rules : List Rule
  stats : ResolveStats

/-- Resolves the exceptions of a list: network rules first, then cosmetic rules, in order. -/
def Resolved.ofRules (version : HostVersion) (rules : List Rule) : Resolved :=
  let network := rules.filterMap Rule.plainNetwork?
  let cosmetic := rules.filterMap Rule.plainCosmetic?
  let kills := rules.filterMap Rule.badfilter?
  let exceptions := rules.filterMap Rule.cosmeticException?
  let killIndex := groupByKey NetworkRule.pattern kills
  let exceptionIndex := groupByKey CosmeticRule.content exceptions
  let keptNetwork := network.filter fun rule =>
    !(killIndex.getD rule.pattern []).any (·.negates rule)
  let keptCosmetic := cosmetic.filterMap fun rule =>
    rule.narrow version (exceptionIndex.getD rule.content [])
  { rules := keptNetwork.map Rule.network ++ keptCosmetic.map Rule.cosmetic
    stats :=
      { before := rules.length
        after := keptNetwork.length + keptCosmetic.length
        badfilterRules := kills.length
        badfilteredRules := network.length - keptNetwork.length
        cosmeticExceptions := exceptions.length
        cosmeticRemoved := cosmetic.length - keptCosmetic.length } }

end FilterCompiler
