import FilterCompiler.Conversion.Basic
import FilterCompiler.Proofs.Ruleset.Assemble
import FilterCompiler.Proofs.Ruleset.Resolution
import Mathlib.Algebra.GroupWithZero.Nat

/-!
# No rule is lost on the way

A conversion counts what it reads, what it hands on and what it leaves out.  Stage
by stage nothing is dropped or counted twice: lines come to rules or errors
(`length_rules_add_errors`), the two subsets share the exceptions that both engines
need (`length_splitRules`), resolving keeps, takes out or uses up every rule, and
what is left has no entry, or an entry that is written or left out
(`length_eq_ofRules`).  The main result is `run_accountsForRules`.
-/

namespace FilterCompiler

/-! ## Lines -/

namespace Rule

/-- The number of rules that a line of a filter list calls for: one for each of its
lines in canonical form that is neither empty nor a comment, and one if it has no
canonical form. -/
def calledFor (line : String) : Nat :=
  let trimmed := Text.trim line.toList
  if isSkipped trimmed then 0
  else
    match Canonical.lines (String.ofList trimmed) with
    | .error _ => 1
    | .ok canonical => canonical.countP fun line => !isSkipped line.toList

theorem isSome_outcome?
    (version : HostVersion)
    (line : String) :
    (outcome? version line).isSome = !isSkipped line.toList := by
  unfold outcome? ofLine
  cases isSkipped line.toList with
  | true => rfl
  | false =>
      by_cases hshort : Text.byteLength line.toList < 3
      · simp [hshort]
      cases Marker.find? line.toList with
      | some cut =>
          cases hrule : CosmeticRule.ofCut version line cut <;> simp [hshort, hrule, Except.map]
      | none => cases NetworkRule.parse version line <;> simp [hshort, Except.map]

theorem length_outcomes
    (version : HostVersion)
    (line : String) :
    (outcomes version line).length = calledFor line := by
  simp only [outcomes, calledFor]
  split
  · rfl
  · cases Canonical.lines (String.ofList (Text.trim line.toList)) with
    | error fault => rfl
    | ok canonical =>
        simp only [List.length_filterMap_eq_countP, isSome_outcome?]

/-- The rule is an exception that the host and the extended engine both get. -/
def isShared : Rule → Bool
  | network rule => rule.isShared
  | cosmetic _ => false

end Rule

namespace RuleBatch

theorem length_ofOutcomes
    (outcomes : List (Except LineError Rule)) :
    (ofOutcomes outcomes).rules.length + (ofOutcomes outcomes).errors = outcomes.length := by
  have hrule (outcome : Except LineError Rule) : outcome.toOption.isSome = outcome.isOk := by
    cases outcome <;> rfl
  have hlength := outcomes.length_eq_countP_add_countP Except.isOk
  simp only [ofOutcomes, List.length_filterMap_eq_countP, hrule]
  simpa using hlength.symm

/-- **A rule or an error comes of everything that calls for a rule.** -/
theorem length_rules_add_errors
    (version : HostVersion)
    (lines : List String) :
    (ofLines version lines).rules.length + (ofLines version lines).errors =
      (lines.map Rule.calledFor).sum := by
  rw [ofLines, length_ofOutcomes, List.length_flatMap]
  simp only [Rule.length_outcomes]

end RuleBatch

/-! ## The two subsets -/

theorem NetworkRule.isExtendedOnly_of_isShared
    {rule : NetworkRule}
    (h : rule.isShared) :
    rule.isExtendedOnly = false := by
  simp [isExtendedOnly, h]

/-- **Every rule is in one subset**, and the shared exceptions are in both. -/
theorem length_splitRules
    (rules : List Rule) :
    rules.length + rules.countP Rule.isShared =
      (splitRules rules).1.length + (splitRules rules).2.length := by
  simp only [splitRules, ← List.countP_eq_length_filter]
  induction rules with
  | nil => rfl
  | cons rule rules ih =>
      simp only [List.length_cons, List.countP_cons]
      cases rule with
      | network rule =>
          cases hshared : rule.isShared with
          | true =>
              have hboth := NetworkRule.isExtendedOnly_of_isShared hshared
              simp [Rule.isShared, Rule.isBasic, Rule.isExtended, hshared, hboth]
              omega
          | false =>
              cases hextended : rule.isExtendedOnly <;>
                simp [Rule.isShared, Rule.isBasic, Rule.isExtended, hshared, hextended] <;> omega
      | cosmetic rule =>
          cases hnative : rule.isNative <;>
            simp [Rule.isShared, Rule.isBasic, Rule.isExtended, hnative] <;> omega

/-! ## Entries -/

namespace Assembled

theorem entriesCount_add_discardedCount
    (version : HostVersion)
    (limits : Limits)
    (rules : List Rule) :
    (ofRules version limits rules).entriesCount + (ofRules version limits rules).discardedCount =
      rules.countP fun rule => (rule.toEntry version).isSome := by
  obtain ⟨k, hk, hassembled, -⟩ := ofEntries_eq limits (sortedEntries version rules)
  have hlength :
      (sortedEntries version rules).length =
        rules.countP fun rule => (rule.toEntry version).isSome := by
    simp only [sortedEntries, List.length_map, List.length_mergeSort,
      List.length_filterMap_eq_countP]
  rw [ofRules, hassembled, ← hlength]
  exact Nat.add_sub_cancel' hk

/-- **A rule has no entry, or one that is written or left out.** -/
theorem length_eq_ofRules
    (version : HostVersion)
    (limits : Limits)
    (rules : List Rule) :
    rules.length =
      rules.countP (fun rule => (rule.toEntry version).isNone) +
        (ofRules version limits rules).entriesCount +
        (ofRules version limits rules).discardedCount := by
  have hlength :=
    Resolved.length_filterMap_add_countP (fun rule : Rule => rule.toEntry version) rules
  have hentries := entriesCount_add_discardedCount version limits rules
  rw [List.length_filterMap_eq_countP] at hlength
  omega

end Assembled

/-! ## Conversions -/

namespace Conversion

/-- **A conversion accounts for every rule.**  What the lines call for comes to
rules and errors; every rule goes to the host or to the extended engine, and the
shared exceptions go to both; and every rule for the host acts on others, is taken
out, has no entry, or has one that is written or left out. -/
theorem run_accountsForRules
    (options : ConversionOptions)
    (lines : List String) :
    let conversion := (run options (.always false) lines).conversion
    let rules := (RuleBatch.ofLines options.version lines).rules
    let basic := (splitRules rules).1
    let extended := (splitRules rules).2
    let resolved := Resolved.ofRules options.version basic
    conversion.sourceRulesCount + conversion.errorsCount = (lines.map Rule.calledFor).sum ∧
      conversion.sourceRulesCount + rules.countP Rule.isShared =
        basic.length + extended.length ∧
      conversion.compatibleRulesCount = basic.length ∧
      basic.length =
        resolved.stats.badfilterRules + resolved.stats.cosmeticExceptions +
          resolved.stats.badfilteredRules + resolved.stats.cosmeticRemoved +
          resolved.rules.countP (fun rule => (rule.toEntry options.version).isNone) +
          conversion.entriesCount + conversion.discardedCount := by
  intro conversion rules basic extended resolved
  refine ⟨RuleBatch.length_rules_add_errors options.version lines, length_splitRules rules, rfl, ?_⟩
  have hbefore :
      resolved.stats.before =
        resolved.stats.after + resolved.stats.badfilterRules + resolved.stats.badfilteredRules +
          resolved.stats.cosmeticExceptions + resolved.stats.cosmeticRemoved :=
    Resolved.before_eq_sum options.version basic
  have hentries :
      resolved.rules.length =
        resolved.rules.countP (fun rule => (rule.toEntry options.version).isNone) +
          conversion.entriesCount + conversion.discardedCount :=
    Assembled.length_eq_ofRules options.version (limits options) resolved.rules
  have hsource : resolved.stats.before = basic.length :=
    congrArg ResolveStats.before (Resolved.stats_ofRules options.version basic)
  have hleft : resolved.stats.after = resolved.rules.length :=
    congrArg ResolveStats.after (Resolved.stats_ofRules options.version basic)
  omega

end Conversion
end FilterCompiler
