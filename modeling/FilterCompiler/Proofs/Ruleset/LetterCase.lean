import FilterCompiler.Proofs.Rule.DomainCase
import FilterCompiler.Proofs.Ruleset.Resolution
import FilterCompiler.Conversion.Basic

/-!
# Resolving exceptions and letter case

Exceptions compare domains as they are written, and entries list them in small letters.
So writing all domains in small letters before exceptions are resolved changes nothing if
domains that are compared agree in case (`IsCaseConsistent`): each comparison on the way
then comes out the same (`exclude_lowered`, `negates_lowered`), and hence the ruleset does
too (`ofRules_lowered`).
-/

namespace FilterCompiler

/-! ## Domains that agree in case -/

namespace Domain

/-- Of two domains one is at or under the other one if it is so in small letters. -/
def AgreeInCase (d e : String) : Prop :=
  (isWithin (lower d) (lower e) → isWithin d e) ∧ (isWithin (lower e) (lower d) → isWithin e d)

instance (d e : String) : Decidable (AgreeInCase d e) :=
  inferInstanceAs (Decidable ((_ → _) ∧ (_ → _)))

theorem AgreeInCase.symm
    {d e : String}
    (h : AgreeInCase d e) :
    AgreeInCase e d :=
  ⟨h.2, h.1⟩

theorem AgreeInCase.isWithin_lower_eq
    {d e : String}
    (h : AgreeInCase d e) :
    isWithin (lower d) (lower e) = isWithin d e :=
  Bool.eq_iff_iff.mpr ⟨h.1, isWithin_lower⟩

/-- A domain is not a subdomain of one that is as long. -/
theorem AgreeInCase.lower_eq_iff
    {d e : String}
    (h : AgreeInCase d e) :
    lower d = lower e ↔ d = e := by
  refine ⟨fun heq => ?_, congrArg lower⟩
  have hwithin : isWithin (lower d) (lower e) := by
    rw [isWithin_iff]
    exact .inl heq
  rcases (isWithin_iff d e).mp (h.1 hwithin) with hsame | ⟨-, hsuffix⟩
  · exact hsame
  · have hlength := congrArg (fun s => s.toList.length) heq
    simp only [toList_lower, Text.lower, List.length_map] at hlength
    have hshorter := hsuffix.length_le
    rw [List.length_cons] at hshorter
    omega

end Domain

/-! ## Narrowing a scope -/

namespace DomainScope

/-- All domains of the scope. -/
def domains (scope : DomainScope) : List String := scope.permitted ++ scope.restricted

variable {version : HostVersion}

theorem contains_lower
    {domains : List String}
    {domain : String}
    (h : ∀ d ∈ domains, Domain.AgreeInCase d domain) :
    (domains.map Domain.lower).contains (Domain.lower domain) = domains.contains domain := by
  rw [Bool.eq_iff_iff, List.contains_iff_mem, List.contains_iff_mem, List.mem_map]
  constructor
  · rintro ⟨d, hd, hlower⟩
    rwa [← (h d hd).lower_eq_iff.mp hlower]
  · exact fun hmem => ⟨domain, hmem, rfl⟩

theorem filter_isWithin_lower
    {domains : List String}
    {domain : String}
    (h : ∀ d ∈ domains, Domain.AgreeInCase d domain) :
    (domains.map Domain.lower).filter (!Domain.isWithin · (Domain.lower domain)) =
      (domains.filter (!Domain.isWithin · domain)).map Domain.lower := by
  rw [List.filter_map]
  refine congrArg _ (List.filter_congr fun d hd => ?_)
  exact congrArg not (h d hd).isWithin_lower_eq

theorem any_isWithin_lower
    {domains : List String}
    {domain : String}
    (h : ∀ d ∈ domains, Domain.AgreeInCase d domain) :
    (domains.map Domain.lower).any (Domain.isWithin (Domain.lower domain) ·) =
      domains.any (Domain.isWithin domain ·) := by
  rw [List.any_map, Bool.eq_iff_iff, List.any_eq_true, List.any_eq_true]
  refine exists_congr fun d => and_congr_right fun hd => ?_
  exact Bool.eq_iff_iff.mp (h d hd).symm.isWithin_lower_eq

/-- **Excluding a domain does not look at letter case where it agrees.** -/
theorem exclude_lowered
    {scope : DomainScope}
    {domain : String}
    (h : ∀ d ∈ scope.domains, Domain.AgreeInCase d domain) :
    scope.lowered.exclude version (Domain.lower domain) =
      (scope.exclude version domain).map lowered := by
  rw [domains, List.forall_mem_append] at h
  have hpermitted (d : String) (hd : d ∈ scope.permitted.filter (!Domain.isWithin · domain)) :
      Domain.AgreeInCase d domain :=
    h.1 d (List.mem_filter.mp hd).1
  simp only [exclude, lowered, List.isEmpty_map, contains_lower h.2, filter_isWithin_lower h.1,
    any_isWithin_lower hpermitted]
  split
  · split
    · rfl
    · simp [restrict, lowered]
  · split
    · rfl
    · split <;> simp [lowered]

theorem mem_domains_of_exclude
    {scope left : DomainScope}
    {domain : String}
    (h : scope.exclude version domain = some left)
    {d : String}
    (hd : d ∈ left.domains) :
    d ∈ scope.domains ∨ d = domain := by
  unfold exclude at h
  split at h
  · cases h
    split at hd
    · exact .inl hd
    · simp only [domains, restrict, List.mem_append, List.mem_singleton] at hd ⊢
      rcases hd with hd | hd | hd
      · exact .inl (.inl hd)
      · exact .inl (.inr hd)
      · exact .inr hd
  · dsimp only at h
    split at h
    · cases h
    · cases h
      simp only [domains, List.mem_append] at hd ⊢
      rcases hd with hd | hd
      · exact .inl (.inl (List.mem_filter.mp hd).1)
      · split at hd
        · rw [List.mem_append, List.mem_singleton] at hd
          exact hd.imp_left .inr
        · exact .inl (.inr hd)

section Steps

-- the domains that may come to stand in the scope on the way
variable {Known : String → Prop}

theorem known_of_exclude
    {scope left : DomainScope}
    {domain : String}
    (hdomain : Known domain)
    (hscope : ∀ d ∈ scope.domains, Known d)
    (h : scope.exclude version domain = some left) :
    ∀ d ∈ left.domains, Known d := by
  intro d hd
  rcases mem_domains_of_exclude h hd with hd | rfl
  · exact hscope d hd
  · exact hdomain

theorem known_of_except
    {scope left exception : DomainScope}
    (hexception : ∀ e ∈ exception.permitted, Known e)
    (hscope : ∀ d ∈ scope.domains, Known d)
    (h : scope.except version exception = some left) :
    ∀ d ∈ left.domains, Known d := by
  have hall := (except_eq_some_iff.mp h).2
  rw [excludeAll_eq_foldlM] at hall
  exact of_foldlM_eq_some hall (fun e he _ _ => known_of_exclude (hexception e he)) hscope

theorem excludeAll_lowered
    {scope : DomainScope}
    {list : List String}
    (hscope : ∀ d ∈ scope.domains, Known d)
    (hlist : ∀ e ∈ list, Known e ∧ ∀ d, Known d → Domain.AgreeInCase d e) :
    scope.lowered.excludeAll version (list.map Domain.lower) =
      (scope.excludeAll version list).map lowered := by
  rw [excludeAll_eq_foldlM, excludeAll_eq_foldlM]
  have hcomm : ∀ e ∈ list, ∀ scope : DomainScope, (∀ d ∈ scope.domains, Known d) →
      scope.lowered.exclude version (Domain.lower e) = (scope.exclude version e).map lowered := by
    intro e he scope hscope
    exact exclude_lowered fun d hd => (hlist e he).2 d (hscope d hd)
  exact foldlM_map_eq hcomm (fun e he _ _ => known_of_exclude (hlist e he).1) hscope

/-- **Narrowing by exceptions does not look at letter case where it agrees.** -/
theorem exceptAll_lowered
    {scope : DomainScope}
    {exceptions : List DomainScope}
    (hscope : ∀ d ∈ scope.domains, Known d)
    (hexceptions : ∀ exception ∈ exceptions, ∀ e ∈ exception.permitted,
      Known e ∧ ∀ d, Known d → Domain.AgreeInCase d e) :
    scope.lowered.exceptAll version (exceptions.map lowered) =
      (scope.exceptAll version exceptions).map lowered := by
  rw [exceptAll_eq_foldlM, exceptAll_eq_foldlM]
  have hcomm : ∀ exception ∈ exceptions, ∀ scope : DomainScope, (∀ d ∈ scope.domains, Known d) →
      scope.lowered.except version exception.lowered =
        (scope.except version exception).map lowered := by
    intro exception hexception scope hscope
    rw [except, except, lowered, lowered, List.isEmpty_map]
    split
    · rfl
    · exact excludeAll_lowered hscope (hexceptions exception hexception)
  have hkeep : ∀ exception ∈ exceptions, ∀ scope left : DomainScope,
      (∀ d ∈ scope.domains, Known d) → scope.except version exception = some left →
        ∀ d ∈ left.domains, Known d := by
    intro exception hexception scope left
    exact known_of_except fun e he => (hexceptions exception hexception e he).1
  exact foldlM_map_eq hcomm hkeep hscope

end Steps

end DomainScope

/-! ## Rules -/

/-- The rule with its domains in small letters and without its text. -/
def Rule.lowered : Rule → Rule
  | network rule => network rule.lowered
  | cosmetic rule => cosmetic rule.lowered

/-- Domains of two rules that are the same in small letters are the same. -/
structure NetworkRule.AgreeInCase (kill target : NetworkRule) : Prop where
  permitted : ∀ d ∈ kill.header.scope.permitted, ∀ e ∈ target.header.scope.permitted,
    Domain.lower d = Domain.lower e → d = e
  restricted : ∀ d ∈ kill.header.scope.restricted, ∀ e ∈ target.header.scope.restricted,
    Domain.lower d = Domain.lower e → d = e

instance (kill target : NetworkRule) : Decidable (kill.AgreeInCase target) :=
  decidable_of_iff (_ ∧ _) ⟨fun h => ⟨h.1, h.2⟩, fun h => ⟨h.permitted, h.restricted⟩⟩

/-- Domains agree in case where the first rule takes away from the second one: those of a
badfilter rule with those of a rule with its pattern, and those of a cosmetic exception
with those of a rule with its content. -/
def Rule.AgreesInCase : Rule → Rule → Prop
  | network kill, network target =>
      kill.isBadfilter → kill.pattern = target.pattern → kill.AgreeInCase target
  | cosmetic exception, cosmetic rule =>
      exception.header.isException → exception.content = rule.content →
        ∀ d ∈ rule.header.scope.domains, ∀ e ∈ exception.header.scope.permitted,
          Domain.AgreeInCase d e
  | _, _ => True

instance : ∀ rule other : Rule, Decidable (rule.AgreesInCase other)
  | .network _, .network _ => inferInstanceAs (Decidable (_ → _ → _))
  | .cosmetic _, .cosmetic _ => inferInstanceAs (Decidable (_ → _ → _))
  | .network _, .cosmetic _ => .isTrue trivial
  | .cosmetic _, .network _ => .isTrue trivial

/-- Domains agree in case wherever the rules compare them. -/
def IsCaseConsistent (rules : List Rule) : Prop :=
  ∀ rule ∈ rules, ∀ other ∈ rules, rule.AgreesInCase other

instance (rules : List Rule) : Decidable (IsCaseConsistent rules) :=
  inferInstanceAs (Decidable (∀ rule ∈ rules, _))

theorem map_lower_inj_of_agree
    {first second : List String}
    (h : ∀ d ∈ first, ∀ e ∈ second, Domain.lower d = Domain.lower e → d = e) :
    first.map Domain.lower = second.map Domain.lower ↔ first = second := by
  refine ⟨fun hmap => ?_, congrArg _⟩
  induction first generalizing second with
  | nil => exact (List.map_eq_nil_iff.mp hmap.symm).symm
  | cons d first ih =>
      cases second with
      | nil => cases hmap
      | cons e second =>
          rw [List.map_cons, List.map_cons, List.cons.injEq] at hmap
          rw [h d List.mem_cons_self e List.mem_cons_self hmap.1, ih ?_ hmap.2]
          exact fun d hd e he => h d (List.mem_cons_of_mem _ hd) e (List.mem_cons_of_mem _ he)

namespace NetworkRule

theorem sharesDomain_lower
    {first second : List String}
    (h : ∀ d ∈ first, ∀ e ∈ second, Domain.lower d = Domain.lower e → d = e) :
    sharesDomain (first.map Domain.lower) (second.map Domain.lower) =
      sharesDomain first second := by
  have hany : (first.map Domain.lower).any ((second.map Domain.lower).contains ·) =
      first.any (second.contains ·) := by
    rw [List.any_map, Bool.eq_iff_iff, List.any_eq_true, List.any_eq_true]
    refine exists_congr fun d => and_congr_right fun hd => ?_
    simp only [Function.comp_apply, List.contains_iff_mem, List.mem_map]
    constructor
    · rintro ⟨e, he, hlower⟩
      rwa [h d hd e he hlower.symm]
    · exact fun hmem => ⟨d, hmem, rfl⟩
  rw [sharesDomain, sharesDomain, List.isEmpty_map, List.isEmpty_map, hany]

/-- **Badfilter rules do not look at letter case where it agrees.** -/
theorem negates_lowered
    {kill target : NetworkRule}
    (h : kill.AgreeInCase target) :
    kill.lowered.negates target.lowered = kill.negates target := by
  have hrestricted : (kill.lowered.header.scope.restricted ==
        target.lowered.header.scope.restricted) =
      (kill.header.scope.restricted == target.header.scope.restricted) := by
    rw [Bool.eq_iff_iff, beq_iff_eq, beq_iff_eq]
    exact map_lower_inj_of_agree h.restricted
  have hshares : sharesDomain kill.lowered.header.scope.permitted
        target.lowered.header.scope.permitted =
      sharesDomain kill.header.scope.permitted target.header.scope.permitted :=
    sharesDomain_lower h.permitted
  rw [negates, negates, hrestricted, hshares]
  rfl

end NetworkRule

namespace Rule

variable {version : HostVersion} {rules : List Rule}

theorem isBasic_lowered
    (rule : Rule) :
    rule.lowered.isBasic = rule.isBasic := by
  cases rule <;> rfl

theorem kills_lowered
    (h : IsCaseConsistent rules)
    {rule : Rule}
    (hrule : rule ∈ rules)
    {target : NetworkRule}
    (htarget : .network target ∈ rules) :
    rule.lowered.kills target.lowered = rule.kills target := by
  cases rule with
  | cosmetic rule => rfl
  | network kill =>
      change (kill.isBadfilter && kill.lowered.negates target.lowered) =
        (kill.isBadfilter && kill.negates target)
      by_cases hkill : kill.isBadfilter
      · by_cases hpattern : kill.pattern = target.pattern
        · rw [NetworkRule.negates_lowered (h _ hrule _ htarget hkill hpattern)]
        · have hlowered : kill.lowered.negates target.lowered = false :=
            Bool.eq_false_iff.mpr fun hnegates =>
              hpattern (@NetworkRule.pattern_eq_of_negates kill.lowered target.lowered hnegates)
          have hplain : kill.negates target = false :=
            Bool.eq_false_iff.mpr fun hnegates =>
              hpattern (NetworkRule.pattern_eq_of_negates hnegates)
          rw [hlowered, hplain]
      · simp [hkill]

theorem leftNetwork?_lowered
    (h : IsCaseConsistent rules)
    {rule : Rule}
    (hrule : rule ∈ rules) :
    leftNetwork? (rules.map lowered) rule.lowered = (leftNetwork? rules rule).map lowered := by
  cases rule with
  | cosmetic rule => rfl
  | network target =>
      have hkilled : (rules.map lowered).any (·.kills target.lowered) =
          rules.any (·.kills target) := by
        rw [List.any_map, Bool.eq_iff_iff, List.any_eq_true, List.any_eq_true]
        refine exists_congr fun other => and_congr_right fun hother => ?_
        exact Bool.eq_iff_iff.mp (kills_lowered h hother hrule)
      change (if target.isBadfilter || (rules.map lowered).any (·.kills target.lowered) then none
        else some (lowered (network target))) = _
      rw [hkilled, leftNetwork?]
      split <;> rfl

theorem filterMap_exceptionFor?_lowered
    (content : String) :
    (rules.map lowered).filterMap (exceptionFor? content) =
      (rules.filterMap (exceptionFor? content)).map CosmeticRule.lowered := by
  rw [List.filterMap_map, List.map_filterMap]
  congr 1
  funext rule
  cases rule with
  | network rule => rfl
  | cosmetic rule =>
      change (if rule.header.isException && rule.content == content then
        some rule.lowered else none) = _
      rw [exceptionFor?]
      split <;> rfl

/-- The rule itself and the exceptions with its content are all that narrows it. -/
theorem narrow_lowered
    (h : IsCaseConsistent rules)
    {rule : CosmeticRule}
    (hrule : .cosmetic rule ∈ rules) :
    rule.lowered.narrow version
        ((rules.filterMap (exceptionFor? rule.content)).map CosmeticRule.lowered) =
      (rule.narrow version (rules.filterMap (exceptionFor? rule.content))).map
        CosmeticRule.lowered := by
  have hexception {exception : CosmeticRule}
      (hmem : exception ∈ rules.filterMap (exceptionFor? rule.content)) :
      .cosmetic exception ∈ rules ∧ exception.header.isException ∧
        exception.content = rule.content := by
    obtain ⟨source, hsource, hfor⟩ := List.mem_filterMap.mp hmem
    cases source with
    | network source => cases hfor
    | cosmetic source =>
        rw [exceptionFor?, Option.ite_none_right_eq_some, Option.some_inj, Bool.and_eq_true,
          beq_iff_eq] at hfor
        obtain ⟨⟨hisException, hcontent⟩, rfl⟩ := hfor
        exact ⟨hsource, hisException, hcontent⟩
  have hscope := @DomainScope.exceptAll_lowered version
    (fun d => ∃ source, .cosmetic source ∈ rules ∧ source.content = rule.content ∧
      d ∈ source.header.scope.domains)
    rule.header.scope ((rules.filterMap (exceptionFor? rule.content)).map (·.header.scope))
    (fun d hd => ⟨rule, hrule, rfl, hd⟩) (by
      rw [List.forall_mem_map]
      intro exception hmem e he
      obtain ⟨hsource, hisException, hcontent⟩ := hexception hmem
      refine ⟨⟨exception, hsource, hcontent, List.mem_append_left _ he⟩, ?_⟩
      rintro d ⟨source, hmem', hsame, hd⟩
      exact h _ hsource _ hmem' hisException (hcontent.trans hsame.symm) d hd e he)
  have hscopes (exceptions : List CosmeticRule) :
      (exceptions.map CosmeticRule.lowered).map (·.header.scope) =
        (exceptions.map (·.header.scope)).map DomainScope.lowered := by
    rw [List.map_map, List.map_map]
    rfl
  rw [CosmeticRule.narrow, CosmeticRule.narrow, hscopes, Option.map_map]
  change (rule.header.scope.lowered.exceptAll version _).map _ = _
  rw [hscope, Option.map_map]
  rfl

theorem leftCosmetic?_lowered
    (h : IsCaseConsistent rules)
    {rule : Rule}
    (hrule : rule ∈ rules) :
    leftCosmetic? version (rules.map lowered) rule.lowered =
      (leftCosmetic? version rules rule).map lowered := by
  cases rule with
  | network rule => rfl
  | cosmetic rule =>
      change (if rule.header.isException then none
        else (rule.lowered.narrow version
          ((rules.map lowered).filterMap (exceptionFor? rule.content))).map cosmetic) = _
      rw [filterMap_exceptionFor?_lowered, narrow_lowered h hrule, leftCosmetic?]
      split
      · rfl
      · rw [Option.map_map, Option.map_map]
        rfl

end Rule

/-- **Resolving does not look at letter case where it agrees.** -/
theorem Resolved.rules_ofRules_lowered
    {rules : List Rule}
    (h : IsCaseConsistent rules)
    (version : HostVersion) :
    (ofRules version (rules.map Rule.lowered)).rules =
      (ofRules version rules).rules.map Rule.lowered := by
  rw [rules_ofRules, rules_ofRules, List.map_append, List.filterMap_map, List.filterMap_map,
    List.map_filterMap, List.map_filterMap]
  congr 1
  · exact List.filterMap_congr fun rule hrule => Rule.leftNetwork?_lowered h hrule
  · exact List.filterMap_congr fun rule hrule => Rule.leftCosmetic?_lowered h hrule

/-! ## Entries -/

theorem domainItems?_lower
    (domains : List String) :
    domainItems? (domains.map Domain.lower) = domainItems? domains := by
  simp [domainItems?, Function.comp_def]

theorem Trigger.withScope_lowered
    (t : Trigger)
    (scope : DomainScope)
    (version : HostVersion) :
    t.withScope scope.lowered version = t.withScope scope version := by
  simp only [withScope, DomainScope.lowered, domainItems?_lower, List.isEmpty_map]

namespace NetworkRule

theorem withScope_lowered
    (rule : NetworkRule)
    (version : HostVersion) :
    (Trigger.ofFilter rule.lowered.urlFilter).withScope rule.lowered.header.scope version =
      (Trigger.ofFilter rule.urlFilter).withScope rule.header.scope version :=
  Trigger.withScope_lowered _ rule.header.scope version

theorem pageHost?_lowered
    (rule : NetworkRule) :
    rule.lowered.pageHost? = rule.pageHost? := by
  have hpermitted : rule.lowered.header.scope.permitted.isEmpty =
      rule.header.scope.permitted.isEmpty :=
    List.isEmpty_map
  have hpattern : rule.lowered.pattern = rule.pattern := rfl
  unfold pageHost?
  rw [hpermitted, hpattern]

theorem pageTrigger_lowered
    (rule : NetworkRule)
    (version : HostVersion) :
    rule.lowered.pageTrigger version = rule.pageTrigger version := by
  have hrestricted : domainItems? rule.lowered.header.scope.restricted =
      domainItems? rule.header.scope.restricted :=
    domainItems?_lower _
  have hcase : rule.lowered.caseFlag = rule.caseFlag := rfl
  unfold pageTrigger
  rw [pageHost?_lowered]
  cases rule.pageHost? with
  | none => rw [withScope_lowered rule version, hcase]
  | some host => rw [hrestricted, hcase]

theorem requestTrigger_lowered
    (rule : NetworkRule)
    (version : HostVersion) :
    rule.lowered.requestTrigger version = rule.requestTrigger version := by
  have htypes : rule.lowered.effectiveTypes = rule.effectiveTypes := rfl
  have hcase : rule.lowered.caseFlag = rule.caseFlag := rfl
  have hparty : rule.lowered.party = rule.party := rfl
  rw [requestTrigger, withScope_lowered rule version, htypes, hcase, hparty, requestTrigger]

end NetworkRule

/-- **An entry does not keep the letter case of domains.** -/
theorem Rule.toEntry_lowered
    (rule : Rule)
    (version : HostVersion) :
    rule.lowered.toEntry version = rule.toEntry version := by
  cases rule with
  | network rule =>
      change rule.lowered.toEntry version = rule.toEntry version
      unfold NetworkRule.toEntry
      rw [NetworkRule.pageTrigger_lowered rule version,
        NetworkRule.requestTrigger_lowered rule version]
      rfl
  | cosmetic rule =>
      have htrigger : rule.lowered.trigger version = rule.trigger version :=
        Trigger.withScope_lowered _ rule.header.scope version
      have hempty : rule.lowered.header.scope.permitted.isEmpty =
          rule.header.scope.permitted.isEmpty :=
        List.isEmpty_map
      change rule.lowered.toEntry version = rule.toEntry version
      rw [CosmeticRule.toEntry, htrigger, hempty, CosmeticRule.toEntry]
      rfl

/-- **The ruleset of some rules does not look at the letter case of domains where it
agrees.** -/
theorem Assembled.ofRules_lowered
    {rules : List Rule}
    (h : IsCaseConsistent rules)
    (version : HostVersion)
    (limits : Limits) :
    ofRules version limits (Resolved.ofRules version (rules.map Rule.lowered)).rules =
      ofRules version limits (Resolved.ofRules version rules).rules := by
  rw [Resolved.rules_ofRules_lowered h, ofRules, ofRules, sortedEntries, sortedEntries,
    List.filterMap_map]
  simp only [Function.comp_def, Rule.toEntry_lowered]

end FilterCompiler
