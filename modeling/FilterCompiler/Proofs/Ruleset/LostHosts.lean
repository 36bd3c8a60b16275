import FilterCompiler.Proofs.Ruleset.Narrowing
import FilterCompiler.Rule.Basic
import Mathlib.Data.List.Basic

/-!
# The hosts that a rule loses

Only the permitted domains of an exception are looked at, so an exception acts on hosts
that it excludes.  Which exception costs a rule a host is said here for every version: one
without permitted domains, or one with a domain at or above the host, if the version can
restrict that domain or if all the domains through which the rule reaches the host lie
under it.  A host on which no exception applies is lost to those exceptions only that
exclude it (`not_appliesOn_narrow_iff`).

The domains through which a rule reaches a host change while it is narrowed.  As long as
the rule applies on the host, the highest of them stays (`liesUnder_of_mem_exclude`), and
nothing else matters for what is lost next.
-/

namespace FilterCompiler
namespace DomainScope

variable {version : HostVersion} {scope : DomainScope} {host : String}

/-! ## What costs a scope a host -/

/-- The permitted domains through which the scope reaches the host lie under the domain. -/
def LiesUnder (scope : DomainScope) (host domain : String) : Prop :=
  ∀ permitted ∈ scope.permitted,
    Domain.IsAtOrUnder host permitted → Domain.IsAtOrUnder permitted domain

/-- The scope loses the host when the domain is cut out. -/
def LosesTo (version : HostVersion) (scope : DomainScope) (host domain : String) : Prop :=
  Domain.IsAtOrUnder host domain ∧
    (version.supportsMixedDomainScope ∨ scope.LiesUnder host domain)

/-- The scope loses the host to an exception. -/
def LosesToException (version : HostVersion) (scope : DomainScope) (host : String)
    (exception : DomainScope) : Prop :=
  exception.permitted = [] ∨ ∃ domain ∈ exception.permitted, scope.LosesTo version host domain

theorem losesTo_congr
    {scope' : DomainScope}
    (h : ∀ domain, scope'.LiesUnder host domain ↔ scope.LiesUnder host domain)
    (domain : String) :
    scope'.LosesTo version host domain ↔ scope.LosesTo version host domain := by
  rw [LosesTo, LosesTo, h]

theorem losesToException_congr
    {scope' : DomainScope}
    (h : ∀ domain, scope'.LiesUnder host domain ↔ scope.LiesUnder host domain)
    (exception : DomainScope) :
    scope'.LosesToException version host exception ↔
      scope.LosesToException version host exception := by
  simp only [LosesToException, losesTo_congr h]

theorem isAtOrUnderAny_permittedOutside_iff
    (scope : DomainScope)
    (host domain : String) :
    Domain.IsAtOrUnderAny host (scope.permittedOutside domain) ↔ ¬ scope.LiesUnder host domain := by
  simp only [Domain.IsAtOrUnderAny, mem_permittedOutside, LiesUnder, not_forall]
  constructor
  · rintro ⟨permitted, ⟨hmem, houtside⟩, hhost⟩
    exact ⟨permitted, hmem, hhost, houtside⟩
  · rintro ⟨permitted, hmem, hhost, houtside⟩
    exact ⟨permitted, ⟨hmem, houtside⟩, hhost⟩

/-! ## One domain -/

/-- **What one domain costs.** -/
theorem leftAppliesOn_exclude_iff
    (happlies : scope.AppliesOn host)
    (domain : String) :
    LeftAppliesOn (scope.exclude version domain) host ↔ ¬ scope.LosesTo version host domain := by
  have hcuts := cutsOut_exclude version scope domain
  by_cases hcut : Domain.IsAtOrUnder host domain
  case neg =>
    exact iff_of_true (hcuts.kept host happlies hcut) fun hloses => hcut hloses.1
  by_cases hversion : version.supportsMixedDomainScope ∨ scope.permitted = []
  case pos =>
    refine iff_of_false (hcuts.lost hversion host hcut) (not_not_intro ⟨hcut, ?_⟩)
    refine hversion.imp_right fun hgeneric permitted hpermitted => ?_
    rw [hgeneric] at hpermitted
    cases hpermitted
  -- the version takes permitted domains only, and there are some
  obtain ⟨hone, hspecific⟩ := not_or.mp hversion
  have hkept : scope.restrictedBy version domain = scope.restricted := by
    simp [restrictedBy, hone]
  rw [LosesTo, and_iff_right hcut, or_iff_right hone, ← isAtOrUnderAny_permittedOutside_iff,
    exclude_eq, if_neg hspecific, hkept]
  by_cases houtside : scope.permittedOutside domain = []
  · rw [if_pos houtside, houtside]
    refine iff_of_false (not_leftAppliesOn_none host) ?_
    rintro ⟨permitted, hpermitted, -⟩
    cases hpermitted
  · rw [if_neg houtside, leftAppliesOn_some, AppliesOn, Covers, or_iff_right houtside]
    exact and_iff_left happlies.2

/-- **A scope that still applies on a host reaches it through the same highest domain.** -/
theorem liesUnder_of_mem_exclude
    {left : DomainScope}
    {domain : String}
    (hleft : left ∈ scope.exclude version domain)
    (happlies : left.AppliesOn host)
    (above : String) :
    left.LiesUnder host above ↔ scope.LiesUnder host above := by
  rw [exclude_eq] at hleft
  split at hleft
  · cases hleft
    rfl
  next hspecific =>
  split at hleft
  · cases hleft
  next hstays =>
  cases hleft
  obtain ⟨highest, hhighest, hhost⟩ := happlies.1.resolve_left hstays
  have houtside := (mem_permittedOutside _ _ _).mp hhighest
  constructor
  · intro hunder permitted hpermitted hhost'
    by_cases hcut : Domain.IsAtOrUnder permitted domain
    · rcases hhost.comparable hhost' with hbelow | habove
      · exact absurd (hbelow.trans hcut) houtside.2
      · exact habove.trans (hunder highest hhighest hhost)
    · exact hunder permitted ((mem_permittedOutside _ _ _).mpr ⟨hpermitted, hcut⟩) hhost'
  · intro hunder permitted hpermitted hhost'
    exact hunder permitted ((mem_permittedOutside _ _ _).mp hpermitted).1 hhost'

/-! ## Putting steps together -/

/-- What is left of a scope applies on the host unless the host is lost, and then reaches
it through domains that lie under the same domains as before. -/
structure SettlesOn (host : String) (isLost : Prop) (scope : DomainScope)
    (left : Option DomainScope) : Prop where
  appliesOn_iff : LeftAppliesOn left host ↔ ¬ isLost
  liesUnder_iff : ∀ left' ∈ left, left'.AppliesOn host →
    ∀ domain, left'.LiesUnder host domain ↔ scope.LiesUnder host domain

variable {isLost isLost' : Prop} {left : Option DomainScope}

theorem SettlesOn.refl
    (happlies : scope.AppliesOn host) :
    SettlesOn host False scope (some scope) where
  appliesOn_iff := iff_of_true ((leftAppliesOn_some _ _).mpr happlies) not_false
  liesUnder_iff left' hleft' _ domain := by
    cases hleft'
    rfl

theorem SettlesOn.congr
    (h : SettlesOn host isLost scope left)
    (hlost : isLost' ↔ isLost) :
    SettlesOn host isLost' scope left where
  appliesOn_iff := h.appliesOn_iff.trans (not_congr hlost).symm
  liesUnder_iff := h.liesUnder_iff

/-- **A host is lost at the first step or at the second one.** -/
theorem SettlesOn.bind
    {next : DomainScope → Option DomainScope}
    (h : SettlesOn host isLost scope left)
    (hnext : ∀ scope' ∈ left, scope'.AppliesOn host → SettlesOn host isLost' scope' (next scope'))
    (hsubset : ∀ scope' ∈ left, LeftAppliesOn (next scope') host → scope'.AppliesOn host) :
    SettlesOn host (isLost ∨ isLost') scope (left.bind next) := by
  cases left with
  | none =>
      have hlost := not_not.mp fun hnot => not_leftAppliesOn_none host (h.appliesOn_iff.mpr hnot)
      refine ⟨iff_of_false (not_leftAppliesOn_none host) (not_not_intro (.inl hlost)), ?_⟩
      intro left' hleft'
      cases hleft'
  | some scope' =>
      have hfirst := h.appliesOn_iff
      rw [leftAppliesOn_some] at hfirst
      rw [Option.bind_some]
      by_cases happlies : scope'.AppliesOn host
      · have hsecond := hnext scope' rfl happlies
        constructor
        · rw [hsecond.appliesOn_iff, or_iff_right (hfirst.mp happlies)]
        · intro left' hleft' happlies' domain
          exact (hsecond.liesUnder_iff left' hleft' happlies' domain).trans
            (h.liesUnder_iff scope' rfl happlies domain)
      · have hlost := not_not.mp (mt hfirst.mpr happlies)
        have hnone : ¬ LeftAppliesOn (next scope') host := mt (hsubset scope' rfl) happlies
        refine ⟨iff_of_false hnone (not_not_intro (.inl hlost)), ?_⟩
        exact fun left' hleft' happlies' => absurd ⟨left', hleft', happlies'⟩ hnone

/-- **A host is lost at the steps that cost the scope the host**, as the scope was before
all of them.  What a step costs hangs on the domains through which the scope reaches the
host, so it is the same for what the steps before it left. -/
theorem SettlesOn.foldlM
    {α : Type}
    {cut : α → String → Prop}
    {loses : DomainScope → α → Prop}
    {step : DomainScope → α → Option DomainScope}
    (hcuts : ∀ scope item, CutsOut version (cut item) scope (step scope item))
    (hstep : ∀ {scope}, scope.AppliesOn host →
      ∀ item, SettlesOn host (loses scope item) scope (step scope item))
    (hcongr : ∀ {scope scope' : DomainScope},
      (∀ domain, scope'.LiesUnder host domain ↔ scope.LiesUnder host domain) →
        ∀ item, loses scope' item ↔ loses scope item)
    (happlies : scope.AppliesOn host)
    (items : List α) :
    SettlesOn host (∃ item ∈ items, loses scope item) scope (items.foldlM step scope) := by
  induction items generalizing scope with
  | nil => exact (SettlesOn.refl happlies).congr (by simp)
  | cons item items ih =>
      have hfirst := hstep happlies item
      -- what the other steps cost is said of the scope as it was before the first one
      have hrest : ∀ scope' ∈ step scope item, scope'.AppliesOn host →
          SettlesOn host (∃ other ∈ items, loses scope other) scope'
            (items.foldlM step scope') := by
        intro scope' hscope' happlies'
        refine (ih happlies').congr ?_
        simp only [hcongr (hfirst.liesUnder_iff scope' hscope' happlies')]
      rw [List.foldlM_cons]
      refine (hfirst.bind hrest fun scope' _ => ?_).congr ?_
      · exact (CutsOut.foldlM hcuts scope' items).subset host
      · simp only [List.mem_cons, exists_eq_or_imp]

/-! ## Exceptions -/

theorem settlesOn_exclude
    (version : HostVersion)
    (happlies : scope.AppliesOn host)
    (domain : String) :
    SettlesOn host (scope.LosesTo version host domain) scope (scope.exclude version domain) where
  appliesOn_iff := leftAppliesOn_exclude_iff happlies domain
  liesUnder_iff _ := liesUnder_of_mem_exclude

/-- **What some domains cost.** -/
theorem settlesOn_excludeAll
    (version : HostVersion)
    (happlies : scope.AppliesOn host)
    (domains : List String) :
    SettlesOn host (∃ domain ∈ domains, scope.LosesTo version host domain) scope
      (scope.excludeAll version domains) := by
  rw [excludeAll_eq_foldlM]
  exact SettlesOn.foldlM (cutsOut_exclude version) (settlesOn_exclude version) losesTo_congr
    happlies domains

/-- **What one exception costs.** -/
theorem settlesOn_except
    (version : HostVersion)
    (happlies : scope.AppliesOn host)
    (exception : DomainScope) :
    SettlesOn host (scope.LosesToException version host exception) scope
      (scope.except version exception) := by
  simp only [except, List.isEmpty_iff, LosesToException]
  split
  · next hgeneric =>
      refine ⟨iff_of_false (not_leftAppliesOn_none host) (not_not_intro (.inl hgeneric)), ?_⟩
      intro left' hleft'
      cases hleft'
  · next hspecific =>
      exact (settlesOn_excludeAll version happlies exception.permitted).congr (or_iff_right hspecific)

/-- **What some exceptions cost.** -/
theorem settlesOn_exceptAll
    (version : HostVersion)
    (happlies : scope.AppliesOn host)
    (exceptions : List DomainScope) :
    SettlesOn host (∃ exception ∈ exceptions, scope.LosesToException version host exception) scope
      (scope.exceptAll version exceptions) := by
  rw [exceptAll_eq_foldlM]
  exact SettlesOn.foldlM (cutsOut_except version) (settlesOn_except version)
    losesToException_congr happlies exceptions

/-- An exception costs a scope only hosts that its permitted domains, or their absence,
cover. -/
theorem covers_of_losesToException
    {exception : DomainScope}
    (h : scope.LosesToException version host exception) :
    exception.Covers host := by
  refine h.imp_right ?_
  rintro ⟨domain, hdomain, hhost, -⟩
  exact ⟨domain, hdomain, hhost⟩

end DomainScope

/-! ## Rules -/

namespace CosmeticRule

/-- The rule, as an exception, excludes the host. -/
def Excludes (rule : CosmeticRule) (host : String) : Prop :=
  Domain.IsAtOrUnderAny host rule.header.scope.restricted

/-- The rule loses the host to an exception. -/
def LosesTo (version : HostVersion) (rule : CosmeticRule) (host : String)
    (exception : CosmeticRule) : Prop :=
  rule.header.scope.LosesToException version host exception.header.scope

/-- **A host on which no exception applies is lost to exceptions that exclude it.**  The
narrowed rule does not apply on the host if and only if the domains of such an exception,
or their absence, cost the rule the host; that the exception excludes the host makes no
difference. -/
theorem not_appliesOn_narrow_iff
    (version : HostVersion)
    {rule : CosmeticRule}
    {exceptions : List CosmeticRule}
    {host : String}
    (happlies : rule.AppliesOn host)
    (hnone : ∀ exception ∈ exceptions, ¬ exception.AppliesOn host) :
    (¬ ∃ left ∈ rule.narrow version exceptions, left.AppliesOn host) ↔
      ∃ exception ∈ exceptions, exception.Excludes host ∧ rule.LosesTo version host exception := by
  have hsettles := DomainScope.settlesOn_exceptAll version happlies
    (exceptions.map (·.header.scope))
  rw [exists_narrow_appliesOn_iff, hsettles.appliesOn_iff, not_not]
  simp only [List.mem_map, exists_exists_and_eq_and]
  refine exists_congr fun exception => and_congr_right fun hexception => ?_
  rw [LosesTo, iff_and_self]
  intro hloses
  by_contra hexcludes
  exact hnone exception hexception ⟨DomainScope.covers_of_losesToException hloses, hexcludes⟩

/-! ## Rules on one host -/

/-- The rule that hides what a selector matches on some hosts, or an exception from it. -/
def ofSelector (text selector : String) (isException : Bool) (scope : DomainScope) :
    CosmeticRule :=
  { header := { text, isException, isImportant := false, scope }
    content := selector
    kind := .hiding
    isExtended := false
    isScriptlet := false
    path := none }

/-- The exceptions exclude the host or are about another one.  A version that takes permitted
domains only keeps the rule on the host, since `example.com` is not under
`shop.example.com`; another version restricts the latter domain. -/
theorem not_appliesOn_narrow_iff_shop :
    let rule := ofSelector "example.com##.ad" ".ad" false
      { permitted := ["example.com"], restricted := [] }
    let exceptions :=
      [ofSelector "shop.example.com,~a.shop.example.com#@#.ad" ".ad" true
        { permitted := ["shop.example.com"], restricted := ["a.shop.example.com"] },
       ofSelector "b.example.com#@#.ad" ".ad" true
        { permitted := ["b.example.com"], restricted := [] }]
    let host := "a.shop.example.com"
    rule.AppliesOn host ∧ (∀ exception ∈ exceptions, ¬ exception.AppliesOn host) ∧
      ((¬ ∃ left ∈ rule.narrow .v16 exceptions, left.AppliesOn host) ↔
        ∃ exception ∈ exceptions, exception.Excludes host ∧ rule.LosesTo .v16 host exception) ∧
      (∃ left ∈ rule.narrow .v16 exceptions, left.AppliesOn host) ∧
      ¬ ∃ left ∈ rule.narrow .v16_4 exceptions, left.AppliesOn host := by
  intro rule exceptions host
  have happlies : rule.AppliesOn host := by decide
  have hnone : ∀ exception ∈ exceptions, ¬ exception.AppliesOn host := by decide
  refine ⟨happlies, hnone, not_appliesOn_narrow_iff .v16 happlies hnone, ?_, ?_⟩
  · decide +kernel
  · decide +kernel

/-- An exception that excludes the only domain of a rule takes the rule out. -/
theorem narrow_forgets_excluded :
    let rule := ofSelector "example.com##.ad" ".ad" false
      { permitted := ["example.com"], restricted := [] }
    let exception := ofSelector "~example.com#@#.ad" ".ad" true
      { permitted := [], restricted := ["example.com"] }
    Rule.ofLine .v16_4 rule.header.text = .ok (some (.cosmetic rule)) ∧
      Rule.ofLine .v16_4 exception.header.text = .ok (some (.cosmetic exception)) ∧
      exception.content = rule.content ∧
      rule.AppliesOn "example.com" ∧ ¬ exception.AppliesOn "example.com" ∧
      rule.narrow .v16_4 [exception] = none := by
  decide +kernel

end CosmeticRule
end FilterCompiler
