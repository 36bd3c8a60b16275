import FilterCompiler.Ruleset.RuleEntry

/-!
# Assembling a ruleset

The entries of some rules, ordered by group, are written until one more would exceed the number or
the size that the host accepts. A ruleset without entries is refused by the host, so an entry that
does nothing takes their place.
-/

namespace FilterCompiler

/-- The ruleset that does nothing. -/
def neutralRuleset : String :=
  Ruleset.text
    [{ trigger := { Trigger.ofFilter Pattern.matchAll with ifDomain := some ["domain.com"] }
       action := .ofKind .ignorePrevious }]

/-- A ruleset as it is handed to the host. -/
structure Assembled where
  json : String
  /-- How many entries were written; the neutral one does not count. -/
  entriesCount : Nat
  /-- How many entries were left out. -/
  discardedCount : Nat
deriving DecidableEq, Repr

namespace Assembled

/-- Limits on a ruleset. -/
structure Limits where
  entries : Nat
  bytes : Option Nat
deriving DecidableEq, Repr

/-- A ruleset of this size exceeds the limit. -/
def Limits.isExceededBy (limits : Limits) (size : Nat) : Bool :=
  limits.bytes.any fun max => decide (max < size)

/-- What separates one more entry from the `kept` entries before it. -/
def separator (kept : Nat) : String := if kept = 0 then "" else ","

/-- Writes entries after `json`, which holds `kept` entries, as long as the limits allow. -/
def fill (limits : Limits) (json : String) (kept : Nat) : List Entry → String × Nat
  | [] => (json, kept)
  | entry :: entries =>
      if limits.entries ≤ kept then (json, kept)
      else
        let text := entry.text
        let size := json.utf8ByteSize + (separator kept).utf8ByteSize + text.utf8ByteSize + 1
        if limits.isExceededBy size then (json, kept)
        else fill limits (json ++ separator kept ++ text) (kept + 1) entries

/-- The entries of some rules in the order of their groups, and in the order of the rules within a
group. -/
def sortedEntries (version : HostVersion) (rules : List Rule) : List Entry :=
  ((rules.filterMap (·.toEntry version)).mergeSort
    fun a b => decide (a.group.rank ≤ b.group.rank)).map GroupedEntry.entry

/-- Writes as many entries as the limits allow. -/
def ofEntries (limits : Limits) (entries : List Entry) : Assembled :=
  let (json, kept) := fill limits "[" 0 entries
  { json := if kept = 0 then neutralRuleset else json ++ "]"
    entriesCount := kept
    discardedCount := entries.length - kept }

/-- The ruleset of some rules. -/
def ofRules (version : HostVersion) (limits : Limits) (rules : List Rule) : Assembled :=
  ofEntries limits (sortedEntries version rules)

end Assembled
end FilterCompiler
