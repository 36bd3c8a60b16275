import FilterCompiler.Proofs.Ruleset.Resolve

/-!
# Resolving rule by rule

What is left of one rule is said here without any look-up: a network rule goes
if some badfilter rule of the list, wherever it stands, negates it, and a
cosmetic rule is narrowed by the exceptions of the list that have its content.
Resolving a list comes to the same (`ofRules_eq_ruleByRule`).
-/

namespace FilterCompiler

theorem NetworkRule.pattern_eq_of_negates
    {kill target : NetworkRule}
    (h : kill.negates target) :
    kill.pattern = target.pattern := by
  simp only [negates, Bool.and_eq_true, beq_iff_eq] at h
  exact h.1.1.1.1.1.2

namespace Rule

/-! ## One rule -/

/-- The rule, as a badfilter rule, takes the network rule out of a list. -/
def kills (rule : Rule) (target : NetworkRule) : Bool :=
  match rule with
  | network kill => kill.isBadfilter && kill.negates target
  | cosmetic _ => false

/-- The rule as a cosmetic exception with the given content. -/
def exceptionFor? (content : String) : Rule → Option CosmeticRule
  | network _ => none
  | cosmetic rule => if rule.header.isException && rule.content == content then some rule else none

/-- What is left of a network rule among `rules`. -/
def leftNetwork? (rules : List Rule) : Rule → Option Rule
  | network rule =>
      if rule.isBadfilter || rules.any (·.kills rule) then none else some (network rule)
  | cosmetic _ => none

/-- What is left of a cosmetic rule among `rules`. -/
def leftCosmetic? (version : HostVersion) (rules : List Rule) : Rule → Option Rule
  | network _ => none
  | cosmetic rule =>
      if rule.header.isException then none
      else (rule.narrow version (rules.filterMap (exceptionFor? rule.content))).map cosmetic

/-! ## Looking up -/

/-- **The badfilter rules under a pattern are enough**, since a rule negates only
rules with its own pattern. -/
theorem any_killIndex
    (rules : List Rule)
    (rule : NetworkRule) :
    ((groupByKey NetworkRule.pattern (rules.filterMap badfilter?)).getD rule.pattern []).any
        (·.negates rule) =
      rules.any (·.kills rule) := by
  rw [getD_groupByKey, List.any_filter, List.any_filterMap]
  congr 1
  funext other
  cases other with
  | network kill =>
      cases hbad : kill.isBadfilter with
      | false => simp [badfilter?, kills, hbad]
      | true =>
          simp only [badfilter?, kills, hbad, if_true, Bool.true_and]
          rw [Bool.and_eq_right_iff_imp, beq_iff_eq]
          exact NetworkRule.pattern_eq_of_negates
  | cosmetic other => rfl

theorem exceptionIndex_eq
    (rules : List Rule)
    (content : String) :
    (groupByKey CosmeticRule.content (rules.filterMap cosmeticException?)).getD content [] =
      rules.filterMap (exceptionFor? content) := by
  rw [getD_groupByKey, List.filter_filterMap]
  congr 1
  funext other
  cases other with
  | network other => rfl
  | cosmetic other =>
      simp only [cosmeticException?, exceptionFor?]
      cases other.header.isException <;> simp [Option.filter]

end Rule

namespace Resolved

/-! ## A list of rules -/

theorem map_network_filter
    (rules : List Rule) :
    ((rules.filterMap Rule.plainNetwork?).filter
        fun rule => !rules.any (·.kills rule)).map Rule.network =
      rules.filterMap (Rule.leftNetwork? rules) := by
  rw [List.filter_filterMap, List.map_filterMap]
  congr 1
  funext rule
  cases rule with
  | network rule =>
      simp only [Rule.plainNetwork?, Rule.leftNetwork?]
      cases rule.isBadfilter <;> cases hkilled : rules.any (·.kills rule) <;>
        simp [Option.filter, hkilled]
  | cosmetic rule => rfl

theorem map_cosmetic_filterMap
    (version : HostVersion)
    (rules : List Rule) :
    ((rules.filterMap Rule.plainCosmetic?).filterMap fun rule =>
        rule.narrow version (rules.filterMap (Rule.exceptionFor? rule.content))).map Rule.cosmetic =
      rules.filterMap (Rule.leftCosmetic? version rules) := by
  rw [List.filterMap_filterMap, List.map_filterMap]
  congr 1
  funext rule
  cases rule with
  | network rule => rfl
  | cosmetic rule =>
      simp only [Rule.plainCosmetic?, Rule.leftCosmetic?]
      cases rule.header.isException <;> rfl

theorem rules_ofRules
    (version : HostVersion)
    (rules : List Rule) :
    (ofRules version rules).rules =
      rules.filterMap (Rule.leftNetwork? rules) ++
        rules.filterMap (Rule.leftCosmetic? version rules) := by
  rw [← map_network_filter, ← map_cosmetic_filterMap]
  simp only [ofRules, Rule.any_killIndex, Rule.exceptionIndex_eq]

/-! ## What is left -/

theorem mem_filterMap_leftNetwork?
    {rules : List Rule}
    {rule : Rule} :
    rule ∈ rules.filterMap (Rule.leftNetwork? rules) ↔
      rule ∈ rules ∧ ∃ plain, rule = .network plain ∧ plain.isBadfilter = false ∧
        rules.any (·.kills plain) = false := by
  rw [List.mem_filterMap]
  constructor
  · rintro ⟨source, hsource, hleft⟩
    cases source with
    | network plain =>
        simp only [Rule.leftNetwork?, Option.ite_none_left_eq_some, Bool.or_eq_true, not_or,
          Bool.not_eq_true, Option.some.injEq] at hleft
        obtain ⟨hleft, rfl⟩ := hleft
        exact ⟨hsource, plain, rfl, hleft⟩
    | cosmetic plain => cases hleft
  · rintro ⟨hsource, plain, rfl, hplain, hkilled⟩
    exact ⟨.network plain, hsource, by simp [Rule.leftNetwork?, hplain, hkilled]⟩

theorem exists_of_mem_filterMap_leftCosmetic?
    {version : HostVersion}
    {rules : List Rule}
    {rule : Rule}
    (h : rule ∈ rules.filterMap (Rule.leftCosmetic? version rules)) :
    ∃ left, rule = .cosmetic left ∧ left.header.isException = false := by
  obtain ⟨source, -, hleft⟩ := List.mem_filterMap.mp h
  cases source with
  | network plain => cases hleft
  | cosmetic plain =>
      simp only [Rule.leftCosmetic?, Option.ite_none_left_eq_some, Bool.not_eq_true] at hleft
      obtain ⟨hplain, hleft⟩ := hleft
      obtain ⟨left, hnarrow, rfl⟩ := Option.map_eq_some_iff.mp hleft
      obtain ⟨scope, -, rfl⟩ := Option.map_eq_some_iff.mp hnarrow
      exact ⟨_, rfl, hplain⟩

theorem badfilter?_eq_none_of_mem
    {version : HostVersion}
    {rules : List Rule}
    {rule : Rule}
    (h : rule ∈ (ofRules version rules).rules) :
    rule.badfilter? = none ∧ rule.cosmeticException? = none := by
  rw [rules_ofRules, List.mem_append] at h
  rcases h with h | h
  · obtain ⟨-, plain, rfl, hplain, -⟩ := mem_filterMap_leftNetwork?.mp h
    simp [Rule.badfilter?, Rule.cosmeticException?, hplain]
  · obtain ⟨left, rfl, hleft⟩ := exists_of_mem_filterMap_leftCosmetic? h
    simp [Rule.badfilter?, Rule.cosmeticException?, hleft]

theorem network_mem_of_mem
    {version : HostVersion}
    {rules : List Rule}
    {rule : NetworkRule}
    (h : .network rule ∈ (ofRules version rules).rules) :
    .network rule ∈ rules := by
  rw [rules_ofRules, List.mem_append] at h
  rcases h with h | h
  · exact (mem_filterMap_leftNetwork?.mp h).1
  · obtain ⟨left, hleft, -⟩ := exists_of_mem_filterMap_leftCosmetic? h
    cases hleft

/-! ## Counting -/

theorem length_classes
    (rules : List Rule) :
    rules.length =
      (rules.filterMap Rule.badfilter?).length + (rules.filterMap Rule.plainNetwork?).length +
        (rules.filterMap Rule.cosmeticException?).length +
        (rules.filterMap Rule.plainCosmetic?).length := by
  induction rules with
  | nil => rfl
  | cons rule rules ih =>
      cases rule with
      | network rule =>
          cases hbad : rule.isBadfilter <;>
            simp [List.filterMap_cons, Rule.badfilter?, Rule.plainNetwork?,
              Rule.cosmeticException?, Rule.plainCosmetic?, hbad, ih] <;> omega
      | cosmetic rule =>
          cases hexception : rule.header.isException <;>
            simp [List.filterMap_cons, Rule.badfilter?, Rule.plainNetwork?,
              Rule.cosmeticException?, Rule.plainCosmetic?, hexception, ih] <;> omega

theorem length_filterMap_add_countP
    {α β : Type}
    (f : α → Option β)
    (items : List α) :
    (items.filterMap f).length + items.countP (f · |>.isNone) = items.length := by
  induction items with
  | nil => rfl
  | cons item items ih =>
      cases hf : f item <;> simp [hf, ← ih] <;> omega

theorem stats_ofRules
    (version : HostVersion)
    (rules : List Rule) :
    (ofRules version rules).stats =
      { before := rules.length
        after := (ofRules version rules).rules.length
        badfilterRules := (rules.filterMap Rule.badfilter?).length
        badfilteredRules :=
          (rules.filterMap Rule.plainNetwork?).countP fun rule => rules.any (·.kills rule)
        cosmeticExceptions := (rules.filterMap Rule.cosmeticException?).length
        cosmeticRemoved :=
          (rules.filterMap Rule.plainCosmetic?).countP fun rule =>
            (rule.narrow version (rules.filterMap (Rule.exceptionFor? rule.content))).isNone } := by
  -- what is taken out is counted as a difference of lengths
  have hnetwork :=
    (rules.filterMap Rule.plainNetwork?).length_eq_countP_add_countP
      (fun rule => !rules.any (·.kills rule))
  have hcosmetic :=
    length_filterMap_add_countP
      (fun rule : CosmeticRule =>
        rule.narrow version (rules.filterMap (Rule.exceptionFor? rule.content)))
      (rules.filterMap Rule.plainCosmetic?)
  simp only [ofRules, Rule.any_killIndex, Rule.exceptionIndex_eq, ResolveStats.mk.injEq,
    List.length_append, List.length_map, ← List.countP_eq_length_filter, true_and]
  simp only [Bool.not_eq_true, Bool.not_eq_false', Bool.decide_eq_true] at hnetwork
  constructor <;> omega

theorem before_eq_sum
    (version : HostVersion)
    (rules : List Rule) :
    let stats := (ofRules version rules).stats
    stats.before =
      stats.after + stats.badfilterRules + stats.badfilteredRules + stats.cosmeticExceptions +
        stats.cosmeticRemoved := by
  have hclasses := length_classes rules
  have hnetwork := List.length_filter_le (fun rule => !rules.any (·.kills rule))
    (rules.filterMap Rule.plainNetwork?)
  have hcosmetic := List.length_filterMap_le
    (fun rule : CosmeticRule =>
      rule.narrow version (rules.filterMap (Rule.exceptionFor? rule.content)))
    (rules.filterMap Rule.plainCosmetic?)
  simp only [ofRules, Rule.any_killIndex, Rule.exceptionIndex_eq]
  omega

/-- **Resolving a list is resolving rule by rule.**  Every network rule that no
badfilter rule of the list negates is left as it was, then every cosmetic rule as
the exceptions with its content narrow it, each in the order of the list.  No
badfilter rule and no cosmetic exception is left, and every rule is counted once:
as left, as acting on others or as taken out. -/
theorem ofRules_eq_ruleByRule
    (version : HostVersion)
    (rules : List Rule) :
    let resolved := ofRules version rules
    resolved.rules =
        rules.filterMap (Rule.leftNetwork? rules) ++
          rules.filterMap (Rule.leftCosmetic? version rules) ∧
      (∀ rule ∈ resolved.rules, rule.badfilter? = none ∧ rule.cosmeticException? = none) ∧
      (∀ rule, .network rule ∈ resolved.rules → .network rule ∈ rules) ∧
      resolved.stats =
        { before := rules.length
          after := resolved.rules.length
          badfilterRules := (rules.filterMap Rule.badfilter?).length
          badfilteredRules :=
            (rules.filterMap Rule.plainNetwork?).countP fun rule => rules.any (·.kills rule)
          cosmeticExceptions := (rules.filterMap Rule.cosmeticException?).length
          cosmeticRemoved :=
            (rules.filterMap Rule.plainCosmetic?).countP fun rule =>
              (rule.narrow version (rules.filterMap (Rule.exceptionFor? rule.content))).isNone } ∧
      resolved.stats.before =
        resolved.stats.after + resolved.stats.badfilterRules + resolved.stats.badfilteredRules +
          resolved.stats.cosmeticExceptions + resolved.stats.cosmeticRemoved := by
  intro resolved
  exact ⟨rules_ofRules version rules, fun _ => badfilter?_eq_none_of_mem,
    fun _ => network_mem_of_mem, stats_ofRules version rules, before_eq_sum version rules⟩

end Resolved
end FilterCompiler
