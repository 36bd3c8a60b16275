import FilterCompiler.Proofs.Rule.WellFormed
import FilterCompiler.Proofs.Ruleset.Steps

/-!
# What resolving keeps

Resolving takes rules out and narrows scopes by domains of other rules of the
same list, so it makes no domain that was not there.  The main result is
`Resolved.wellFormed_ofRules`.
-/

namespace FilterCompiler

/-! ## Looking up -/

/-- The items under a key are those that have the key, in order. -/
theorem getD_groupByKey
    {α : Type}
    (key : α → String)
    (items : List α)
    (k : String) :
    (groupByKey key items).getD k [] = items.filter (key · == k) := by
  induction items with
  | nil => simp [groupByKey]
  | cons item items ih =>
      have hcons :
          groupByKey key (item :: items) =
            (groupByKey key items).insert (key item)
              (item :: (groupByKey key items).getD (key item) []) := rfl
      rw [hcons, Std.HashMap.getD_insert, List.filter_cons]
      by_cases hkey : key item = k
      · subst hkey
        simp [ih]
      · simp [hkey, ih]

/-! ## Narrowing a scope -/

namespace DomainScope

theorem IsAscii.restrict
    {scope : DomainScope}
    {domain : String}
    (h : scope.IsAscii)
    (hdomain : Text.AllAscii domain.toList) :
    (scope.restrict domain).IsAscii := by
  refine ⟨h.permitted, ?_⟩
  exact List.forall_mem_append.mpr ⟨h.restricted, List.forall_mem_singleton.mpr hdomain⟩

theorem IsAscii.exclude
    {version : HostVersion}
    {scope scope' : DomainScope}
    {domain : String}
    (h : scope.IsAscii)
    (hdomain : Text.AllAscii domain.toList)
    (hscope : scope.exclude version domain = some scope') :
    scope'.IsAscii := by
  have hrestrict := h.restrict hdomain
  unfold DomainScope.exclude at hscope
  split at hscope
  · cases hscope
    split
    · exact h
    · exact hrestrict
  · simp only at hscope
    split at hscope
    · cases hscope
    · cases hscope
      constructor
      · intro permitted hpermitted
        exact h.permitted permitted (List.mem_filter.mp hpermitted).1
      · simp only
        split
        · exact hrestrict.restricted
        · exact h.restricted

theorem IsAscii.excludeAll
    {version : HostVersion}
    {scope scope' : DomainScope}
    {domains : List String}
    (h : scope.IsAscii)
    (hdomains : ∀ domain ∈ domains, Text.AllAscii domain.toList)
    (hscope : scope.excludeAll version domains = some scope') :
    scope'.IsAscii := by
  rw [excludeAll_eq_foldlM] at hscope
  refine of_foldlM_eq_some hscope (fun domain hdomain _ _ hleft => ?_) h
  exact hleft.exclude (hdomains domain hdomain)

theorem IsAscii.exceptAll
    {version : HostVersion}
    {scope scope' : DomainScope}
    {exceptions : List DomainScope}
    (h : scope.IsAscii)
    (hexceptions : ∀ exception ∈ exceptions, exception.IsAscii)
    (hscope : scope.exceptAll version exceptions = some scope') :
    scope'.IsAscii := by
  rw [exceptAll_eq_foldlM] at hscope
  refine of_foldlM_eq_some hscope (fun exception hexception _ _ hleft hexcept => ?_) h
  exact hleft.excludeAll (hexceptions exception hexception).permitted
    (except_eq_some_iff.mp hexcept).2

end DomainScope

/-- **A well-formed rule stays so when it is narrowed.** -/
theorem CosmeticRule.WellFormed.narrow
    {version : HostVersion}
    {rule rule' : CosmeticRule}
    {exceptions : List CosmeticRule}
    (h : rule.WellFormed)
    (hexceptions : ∀ exception ∈ exceptions, exception.WellFormed)
    (hrule : rule.narrow version exceptions = some rule') :
    rule'.WellFormed := by
  obtain ⟨scope, hscope, rfl⟩ := Option.map_eq_some_iff.mp hrule
  refine ⟨h.scope.exceptAll ?_ hscope, h.path⟩
  intro exception hexception
  obtain ⟨rule, hrule, rfl⟩ := List.mem_map.mp hexception
  exact (hexceptions rule hrule).scope

/-! ## The four classes of rules -/

namespace Rule

theorem plainNetwork?_eq_some
    {rule : Rule}
    {rule' : NetworkRule}
    (h : rule.plainNetwork? = some rule') :
    rule = network rule' := by
  cases rule with
  | network rule =>
      simp only [plainNetwork?, Option.ite_none_left_eq_some, Option.some.injEq] at h
      rw [h.2]
  | cosmetic rule => cases h

theorem plainCosmetic?_eq_some
    {rule : Rule}
    {rule' : CosmeticRule}
    (h : rule.plainCosmetic? = some rule') :
    rule = cosmetic rule' := by
  cases rule with
  | network rule => cases h
  | cosmetic rule =>
      simp only [plainCosmetic?, Option.ite_none_left_eq_some, Option.some.injEq] at h
      rw [h.2]

theorem cosmeticException?_eq_some
    {rule : Rule}
    {rule' : CosmeticRule}
    (h : rule.cosmeticException? = some rule') :
    rule = cosmetic rule' := by
  cases rule with
  | network rule => cases h
  | cosmetic rule =>
      simp only [cosmeticException?, Option.ite_none_right_eq_some, Option.some.injEq] at h
      rw [h.2]

end Rule

/-! ## Resolving -/

/-- **What is left of well-formed rules is well formed.** -/
theorem Resolved.wellFormed_ofRules
    (version : HostVersion)
    {rules : List Rule}
    (h : ∀ rule ∈ rules, rule.WellFormed) :
    ∀ rule ∈ (ofRules version rules).rules, rule.WellFormed := by
  have hexceptions : ∀ exception ∈ rules.filterMap Rule.cosmeticException?,
      exception.WellFormed := by
    intro exception hexception
    obtain ⟨rule, hrule, hsome⟩ := List.mem_filterMap.mp hexception
    have hwell := h rule hrule
    rw [Rule.cosmeticException?_eq_some hsome] at hwell
    exact hwell
  simp only [ofRules, List.forall_mem_append, List.forall_mem_map]
  constructor
  · intro rule hrule
    obtain ⟨rule', hrule', hsome⟩ :=
      List.mem_filterMap.mp (List.mem_filter.mp hrule).1
    have hwell := h rule' hrule'
    rw [Rule.plainNetwork?_eq_some hsome] at hwell
    exact hwell
  · intro rule hrule
    obtain ⟨plain, hplain, hnarrow⟩ := List.mem_filterMap.mp hrule
    obtain ⟨rule', hrule', hsome⟩ := List.mem_filterMap.mp hplain
    have hwell := h rule' hrule'
    rw [Rule.plainCosmetic?_eq_some hsome] at hwell
    refine CosmeticRule.WellFormed.narrow hwell ?_ hnarrow
    intro exception hexception
    rw [getD_groupByKey] at hexception
    exact hexceptions exception (List.mem_filter.mp hexception).1

end FilterCompiler
