import FilterCompiler.Command.Validate
import FilterCompiler.Proofs.Rule.WellFormed
import Mathlib.Tactic.IntervalCases

/-!
# Entries that the host takes

A trigger is acceptable if its filter is in the dialect, no list is empty, no
type repeats, and an old host gets one list of domains at most.  The three ways
to build a trigger (for pages, for requests and for hiding) set its domains
from a scope or from the host of the pattern; both are ASCII in a well-formed
rule.  The main result is `Rule.WellFormed.isAcceptable`.
-/

namespace FilterCompiler

/-! ## Acceptable triggers -/

/-- An item of a list of domains: a star, then ASCII text without capitals. -/
def IsDomainItem (item : String) : Prop :=
  ∃ name, item.toList = '*' :: name ∧ Text.AllAscii name ∧
    ∀ c ∈ name, ¬('A' ≤ c ∧ c ≤ 'Z')

/-- The items of the two lists of domains. -/
def Trigger.domainItems (t : Trigger) : List String :=
  t.ifDomain.getD [] ++ t.unlessDomain.getD []

/-- What the host of a version asks of a trigger. -/
structure Trigger.IsAcceptable (version : HostVersion) (t : Trigger) : Prop where
  filter : Regex.check t.urlFilter = .ok ()
  ifDomain : t.ifDomain ≠ some []
  unlessDomain : t.unlessDomain ≠ some []
  resourceType : t.resourceType ≠ some []
  nodup : ∀ types, t.resourceType = some types → types.Nodup
  /-- A host before 16.4 takes one list of domains only. -/
  oneList : ¬ HostVersion.v16_4 ≤ version → t.ifDomain = none ∨ t.unlessDomain = none

theorem HostVersion.supportsMixedDomainScope_eq_false
    {version : HostVersion}
    (h : ¬ HostVersion.v16_4 ≤ version) :
    version.supportsMixedDomainScope = false := by
  simp [supportsMixedDomainScope, h]

/-! ## Domains -/

/-- A domain in small letters is ASCII if the domain is, and has no capitals. -/
theorem Domain.lower_small
    {domain : String}
    (h : Text.AllAscii domain.toList) :
    ∀ c ∈ (lower domain).toList,
      Text.isAscii c = true ∧ ¬('A' ≤ c ∧ c ≤ 'Z') := by
  have hsmall : ∀ n < 128,
      let c := Char.ofNat n
      let d := if 'A' ≤ c ∧ c ≤ 'Z' then Char.ofNat (c.toNat + 32) else c
      Text.isAscii d = true ∧ ¬('A' ≤ d ∧ d ≤ 'Z') := by decide
  intro c hc
  rw [lower, String.toList_ofList] at hc
  obtain ⟨d, hd, rfl⟩ := List.mem_map.mp hc
  have hn : d.toNat < 128 := by simpa [Text.isAscii] using h d hd
  simpa only [Char.ofNat_toNat] using hsmall d.toNat hn

theorem isDomainItem_lower
    {domain : String}
    (h : Text.AllAscii domain.toList) :
    IsDomainItem ("*" ++ Domain.lower domain) := by
  refine ⟨(Domain.lower domain).toList, ?_, ?_, ?_⟩
  · rw [String.toList_append]
    rfl
  · intro c hc
    exact (Domain.lower_small h c hc).1
  · intro c hc
    exact (Domain.lower_small h c hc).2

theorem domainItems?_ne_some_nil
    (domains : List String) :
    domainItems? domains ≠ some [] := by
  cases domains <;> simp [domainItems?]

theorem isDomainItem_of_mem_domainItems?
    {domains : List String}
    (h : ∀ domain ∈ domains, Text.AllAscii domain.toList) :
    ∀ item ∈ (domainItems? domains).getD [], IsDomainItem item := by
  unfold domainItems?
  split
  · simp
  · intro item hitem
    obtain ⟨domain, hdomain, rfl⟩ := List.mem_map.mp hitem
    exact isDomainItem_lower (h domain hdomain)

/-! ## Content types -/

theorem nodup_eraseDups
    (l : List String) :
    l.eraseDups.Nodup := by
  generalize hn : l.length = n
  induction n using Nat.strong_induction_on generalizing l with
  | _ n ih =>
      cases l with
      | nil => simp
      | cons a l =>
          have hle : (l.filter fun b => !b == a).length ≤ l.length :=
            List.length_filter_le _ l
          rw [List.length_cons] at hn
          rw [List.eraseDups_cons, List.nodup_cons, List.mem_eraseDups]
          exact ⟨by simp, ih _ (by omega) _ rfl⟩

/-- A set with a member gives the name of one. -/
theorem ContentTypes.resourceNames_ne_nil
    {s : ContentTypes}
    (hs : s ≠ .none) :
    s.resourceNames ≠ [] := by
  intro hnil
  apply hs
  have hmap : (ContentType.list.filter s.has).map ContentType.resourceName = [] := by
    rw [List.eq_nil_iff_forall_not_mem]
    intro name hname
    rw [resourceNames, List.eq_nil_iff_forall_not_mem] at hnil
    exact hnil name (List.mem_eraseDups.mpr hname)
  have hnone : ∀ t ∈ ContentType.list, s.has t = false := by
    simpa using List.map_eq_nil_iff.mp hmap
  simp only [ContentType.list, List.forall_mem_cons, has, ContentType.position] at hnone
  apply BitVec.eq_of_getLsbD_eq
  intro i hi
  rw [none, BitVec.getLsbD_zero]
  interval_cases i <;> simp_all

/-! ## Triggers of scopes -/

namespace Trigger

theorem isAcceptable_withScope
    {version : HostVersion}
    {t : Trigger}
    (scope : DomainScope)
    (h : t.IsAcceptable version) :
    (t.withScope scope version).IsAcceptable version where
  filter := h.filter
  ifDomain := domainItems?_ne_some_nil _
  unlessDomain := by
    simp only [withScope]
    split
    · exact domainItems?_ne_some_nil _
    · simp
  resourceType := h.resourceType
  nodup := h.nodup
  oneList := by
    intro hversion
    simp only [withScope, HostVersion.supportsMixedDomainScope_eq_false hversion,
      Bool.or_false, domainItems?]
    by_cases hpermitted : scope.permitted.isEmpty
    · simp [hpermitted]
    · simp [hpermitted]

theorem isDomainItem_withScope
    {version : HostVersion}
    (t : Trigger)
    {scope : DomainScope}
    (h : scope.IsAscii) :
    ∀ item ∈ (t.withScope scope version).domainItems, IsDomainItem item := by
  rw [domainItems, List.forall_mem_append]
  constructor
  · exact isDomainItem_of_mem_domainItems? h.permitted
  · simp only [withScope]
    split
    · exact isDomainItem_of_mem_domainItems? h.restricted
    · simp

theorem isAcceptable_ofFilter
    (version : HostVersion)
    {urlFilter : String}
    (h : Regex.check urlFilter = .ok ()) :
    (ofFilter urlFilter).IsAcceptable version := by
  constructor
  · exact h
  all_goals simp [ofFilter]

end Trigger

/-! ## Triggers of rules -/

/-- The host of an ASCII pattern is ASCII. -/
theorem Pattern.allAscii_host
    {pattern : List Char}
    {split : HostSplit}
    (hpattern : Text.AllAscii pattern)
    (h : splitHost? pattern = some split) :
    Text.AllAscii split.host := by
  rw [(eq_append_of_splitHost? h).1] at hpattern
  exact fun c hc => hpattern c (List.mem_append_right _ (List.mem_append_left _ hc))

namespace NetworkRule

theorem allAscii_of_pageHost?
    {rule : NetworkRule}
    {host : String}
    (h : rule.WellFormed)
    (hhost : rule.pageHost? = some host) :
    Text.AllAscii host.toList := by
  unfold pageHost? at hhost
  split at hhost
  · cases hhost
  · next split hsplit =>
      rw [Option.ite_none_right_eq_some] at hhost
      obtain ⟨-, hhost⟩ := hhost
      cases hhost
      rw [String.toList_ofList]
      exact Pattern.allAscii_host h.pattern hsplit

theorem isAcceptable_pageTrigger
    {rule : NetworkRule}
    (version : HostVersion)
    (h : rule.WellFormed) :
    (rule.pageTrigger version).IsAcceptable version := by
  unfold pageTrigger
  split
  · constructor
    · exact Pattern.check_matchAll
    · simp
    · simp only
      split
      · exact domainItems?_ne_some_nil _
      · simp
    · simp [Trigger.ofFilter]
    · simp [Trigger.ofFilter]
    · intro hversion
      simp [HostVersion.supportsMixedDomainScope_eq_false hversion]
  · have hscope := Trigger.isAcceptable_withScope rule.header.scope
      (Trigger.isAcceptable_ofFilter version h.filter)
    exact ⟨hscope.filter, hscope.ifDomain, hscope.unlessDomain, hscope.resourceType,
      hscope.nodup, hscope.oneList⟩

theorem isDomainItem_pageTrigger
    {rule : NetworkRule}
    (version : HostVersion)
    (h : rule.WellFormed) :
    ∀ item ∈ (rule.pageTrigger version).domainItems, IsDomainItem item := by
  unfold pageTrigger
  split
  · next host hhost =>
      rw [Trigger.domainItems, List.forall_mem_append]
      constructor
      · simp only [Option.getD_some, List.forall_mem_singleton]
        exact isDomainItem_lower (allAscii_of_pageHost? h hhost)
      · simp only
        split
        · exact isDomainItem_of_mem_domainItems? h.scope.restricted
        · simp
  · exact Trigger.isDomainItem_withScope (.ofFilter rule.urlFilter) h.scope

theorem isAcceptable_requestTrigger
    {rule : NetworkRule}
    (version : HostVersion)
    (h : rule.WellFormed)
    (htypes : rule.effectiveTypes ≠ .none) :
    (rule.requestTrigger version).IsAcceptable version := by
  have hscope := Trigger.isAcceptable_withScope rule.header.scope
    (Trigger.isAcceptable_ofFilter version h.filter)
  refine ⟨hscope.filter, hscope.ifDomain, hscope.unlessDomain, ?_, ?_, hscope.oneList⟩
  · simp only [requestTrigger]
    split
    · simp
    · simpa using ContentTypes.resourceNames_ne_nil htypes
  · intro types htypes
    simp only [requestTrigger, Option.ite_none_left_eq_some] at htypes
    obtain ⟨-, htypes⟩ := htypes
    cases htypes
    exact nodup_eraseDups _

end NetworkRule

theorem CosmeticRule.isAcceptable_trigger
    {rule : CosmeticRule}
    (version : HostVersion)
    (h : rule.WellFormed) :
    (rule.trigger version).IsAcceptable version := by
  apply Trigger.isAcceptable_withScope
  apply Trigger.isAcceptable_ofFilter
  cases hpath : rule.path with
  | none => exact Pattern.check_matchAll
  | some condition => exact h.path condition hpath

/-- **The entry of a well-formed rule is acceptable.** -/
theorem Rule.WellFormed.isAcceptable
    {version : HostVersion}
    {rule : Rule}
    {grouped : GroupedEntry}
    (h : rule.WellFormed)
    (hentry : rule.toEntry version = some grouped) :
    grouped.entry.trigger.IsAcceptable version ∧
      ∀ item ∈ grouped.entry.trigger.domainItems, IsDomainItem item := by
  cases rule with
  | network rule =>
      simp only [Rule.toEntry, NetworkRule.toEntry] at hentry
      split at hentry
      · cases hentry
      split at hentry
      · cases hentry
        exact ⟨NetworkRule.isAcceptable_pageTrigger version h,
          NetworkRule.isDomainItem_pageTrigger version h⟩
      split at hentry
      · cases hentry
      split at hentry
      · cases hentry
      · next htypes =>
          cases hentry
          exact ⟨NetworkRule.isAcceptable_requestTrigger version h htypes,
            Trigger.isDomainItem_withScope (.ofFilter rule.urlFilter) h.scope⟩
  | cosmetic rule =>
      simp only [Rule.toEntry, CosmeticRule.toEntry] at hentry
      split at hentry
      · cases hentry
      · cases hentry
        exact ⟨CosmeticRule.isAcceptable_trigger version h,
          Trigger.isDomainItem_withScope _ h.scope⟩

end FilterCompiler
