import FilterCompiler.Proofs.Domain
import FilterCompiler.Proofs.Ruleset.Steps
import Mathlib.Tactic.ByContra

/-!
# Narrowed scopes on hosts

An exception cuts the hosts out of a scope that it covers.  What is left never
applies where the scope did not, and no host is lost that no exception covers.
A host version that takes one kind of list only may keep a permitted domain
above the domain of an exception; otherwise no covered host is left.

The step is that of one domain (`cutsOut_exclude`).  A permitted domain and the
domain of an exception that are both above the same host are comparable, so the
one is either taken out or the other becomes restricted.  Steps are put together
by `CutsOut.bind`, and all steps of a list by `CutsOut.foldlM`.
-/

namespace FilterCompiler

/-- The host is at or under one of the domains. -/
def Domain.IsAtOrUnderAny (host : String) (domains : List String) : Prop :=
  ∃ domain ∈ domains, IsAtOrUnder host domain

instance (host : String) (domains : List String) :
    Decidable (Domain.IsAtOrUnderAny host domains) :=
  inferInstanceAs (Decidable (∃ domain ∈ domains, _))

namespace DomainScope

/-- The permitted domains of the scope, or their absence, cover the host. -/
def Covers (scope : DomainScope) (host : String) : Prop :=
  scope.permitted = [] ∨ Domain.IsAtOrUnderAny host scope.permitted

/-- The scope applies on the host. -/
def AppliesOn (scope : DomainScope) (host : String) : Prop :=
  scope.Covers host ∧ ¬ Domain.IsAtOrUnderAny host scope.restricted

instance (scope : DomainScope) (host : String) : Decidable (scope.AppliesOn host) :=
  inferInstanceAs (Decidable ((_ ∨ _) ∧ ¬ _))

/-- What is left of a scope applies on the host; nothing applies nowhere. -/
def LeftAppliesOn (left : Option DomainScope) (host : String) : Prop :=
  ∃ scope ∈ left, scope.AppliesOn host

/-- `left` is what is left of a scope when hosts are cut out. -/
structure CutsOut (version : HostVersion) (cut : String → Prop) (scope : DomainScope)
    (left : Option DomainScope) : Prop where
  /-- No host is added. -/
  subset : ∀ host, LeftAppliesOn left host → scope.AppliesOn host
  /-- No other host is lost. -/
  kept : ∀ host, scope.AppliesOn host → ¬ cut host → LeftAppliesOn left host
  /-- All of the hosts are lost, if the version can say so or no domain is permitted. -/
  lost : version.supportsMixedDomainScope ∨ scope.permitted = [] →
    ∀ host, cut host → ¬ LeftAppliesOn left host
  /-- A scope without permitted domains gets none. -/
  generic : scope.permitted = [] → ∀ left' ∈ left, left'.permitted = []

/-! ## Putting steps together -/

theorem leftAppliesOn_some
    (scope : DomainScope)
    (host : String) :
    LeftAppliesOn (some scope) host ↔ scope.AppliesOn host := by
  simp [LeftAppliesOn]

theorem not_leftAppliesOn_none
    (host : String) :
    ¬ LeftAppliesOn none host := by
  simp [LeftAppliesOn]

theorem CutsOut.of_some
    {version : HostVersion}
    {cut : String → Prop}
    {scope left : DomainScope}
    (hsubset : ∀ host, left.AppliesOn host → scope.AppliesOn host)
    (hkept : ∀ host, scope.AppliesOn host → ¬ cut host → left.AppliesOn host)
    (hlost : version.supportsMixedDomainScope ∨ scope.permitted = [] →
      ∀ host, cut host → ¬ left.AppliesOn host)
    (hgeneric : scope.permitted = [] → left.permitted = []) :
    CutsOut version cut scope (some left) where
  subset host h := hsubset host ((leftAppliesOn_some left host).mp h)
  kept host h hcut := (leftAppliesOn_some left host).mpr (hkept host h hcut)
  lost hversion host hcut h := hlost hversion host hcut ((leftAppliesOn_some left host).mp h)
  generic hnil left' hleft' := by
    cases hleft'
    exact hgeneric hnil

theorem CutsOut.refl
    (version : HostVersion)
    (scope : DomainScope) :
    CutsOut version (fun _ => False) scope (some scope) :=
  .of_some (fun _ h => h) (fun _ h _ => h) (fun _ _ hcut => hcut.elim) (fun h => h)

theorem CutsOut.of_none
    {version : HostVersion}
    {cut : String → Prop}
    {scope : DomainScope}
    (hcut : ∀ host, scope.AppliesOn host → cut host) :
    CutsOut version cut scope none where
  subset host h := absurd h (not_leftAppliesOn_none host)
  kept host h hnot := absurd (hcut host h) hnot
  lost _ host _ := not_leftAppliesOn_none host
  generic _ left hleft := by cases hleft

/-- **Cutting out twice cuts out both.** -/
theorem CutsOut.bind
    {version : HostVersion}
    {cut cut' : String → Prop}
    {scope : DomainScope}
    {left : Option DomainScope}
    {next : DomainScope → Option DomainScope}
    (h : CutsOut version cut scope left)
    (hnext : ∀ scope' ∈ left, CutsOut version cut' scope' (next scope')) :
    CutsOut version (fun host => cut host ∨ cut' host) scope (left.bind next) := by
  cases left with
  | none =>
      apply CutsOut.of_none
      intro host happlies
      by_contra hcut
      rw [not_or] at hcut
      exact not_leftAppliesOn_none host (h.kept host happlies hcut.1)
  | some scope' =>
      have h' := hnext scope' rfl
      constructor
      · intro host happlies
        exact h.subset host ((leftAppliesOn_some _ _).mpr (h'.subset host happlies))
      · intro host happlies hcut
        rw [not_or] at hcut
        exact h'.kept host ((leftAppliesOn_some _ _).mp (h.kept host happlies hcut.1)) hcut.2
      · intro hversion host hcut happlies
        rcases hcut with hcut | hcut
        · exact h.lost hversion host hcut ((leftAppliesOn_some _ _).mpr (h'.subset host happlies))
        · exact h'.lost (hversion.imp_right fun hnil => h.generic hnil scope' rfl) host hcut happlies
      · intro hnil
        exact h'.generic (h.generic hnil scope' rfl)

theorem CutsOut.congr
    {version : HostVersion}
    {cut cut' : String → Prop}
    {scope : DomainScope}
    {left : Option DomainScope}
    (h : CutsOut version cut scope left)
    (hcut : ∀ host, cut' host ↔ cut host) :
    CutsOut version cut' scope left where
  subset := h.subset
  kept host happlies hnot := h.kept host happlies fun hcut' => hnot ((hcut host).mpr hcut')
  lost hversion host hcut' := h.lost hversion host ((hcut host).mp hcut')
  generic := h.generic

/-- **What each step cuts out, all steps cut out.** -/
theorem CutsOut.foldlM
    {α : Type}
    {version : HostVersion}
    {cut : α → String → Prop}
    {step : DomainScope → α → Option DomainScope}
    (hstep : ∀ scope item, CutsOut version (cut item) scope (step scope item))
    (scope : DomainScope)
    (items : List α) :
    CutsOut version (fun host => ∃ item ∈ items, cut item host) scope
      (items.foldlM step scope) := by
  induction items generalizing scope with
  | nil =>
      apply (CutsOut.refl version scope).congr
      simp
  | cons item items ih =>
      rw [List.foldlM_cons]
      apply ((hstep scope item).bind fun scope' _ => ih scope').congr
      simp

/-! ## One domain -/

theorem isAtOrUnderAny_append
    (host : String)
    (domains domains' : List String) :
    Domain.IsAtOrUnderAny host (domains ++ domains') ↔
      Domain.IsAtOrUnderAny host domains ∨ Domain.IsAtOrUnderAny host domains' := by
  simp only [Domain.IsAtOrUnderAny, List.mem_append, or_and_right, exists_or]

theorem isAtOrUnderAny_singleton
    (host domain : String) :
    Domain.IsAtOrUnderAny host [domain] ↔ Domain.IsAtOrUnder host domain := by
  simp only [Domain.IsAtOrUnderAny, List.mem_singleton, exists_eq_left]

/-- The domains with one more, unless it is one of them. -/
def withDomain (domains : List String) (domain : String) : List String :=
  if domains.contains domain then domains else domains ++ [domain]

theorem isAtOrUnderAny_withDomain
    (host : String)
    (domains : List String)
    (domain : String) :
    Domain.IsAtOrUnderAny host (withDomain domains domain) ↔
      Domain.IsAtOrUnderAny host domains ∨ Domain.IsAtOrUnder host domain := by
  unfold withDomain
  split
  · next hmem =>
      rw [List.contains_iff_mem] at hmem
      rw [iff_self_or]
      exact fun hhost => ⟨domain, hmem, hhost⟩
  · rw [isAtOrUnderAny_append, isAtOrUnderAny_singleton]

def permittedOutside (scope : DomainScope) (domain : String) : List String :=
  scope.permitted.filter (!Domain.isWithin · domain)

theorem mem_permittedOutside
    (scope : DomainScope)
    (domain permitted : String) :
    permitted ∈ scope.permittedOutside domain ↔
      permitted ∈ scope.permitted ∧ ¬ Domain.IsAtOrUnder permitted domain := by
  simp [permittedOutside, ← Domain.isWithin_iff]

theorem isAtOrUnderAny_permittedOutside
    {scope : DomainScope}
    {host domain : String}
    (h : Domain.IsAtOrUnderAny host scope.permitted)
    (hcut : ¬ Domain.IsAtOrUnder host domain) :
    Domain.IsAtOrUnderAny host (scope.permittedOutside domain) := by
  obtain ⟨permitted, hpermitted, hhost⟩ := h
  refine ⟨permitted, ?_, hhost⟩
  rw [mem_permittedOutside]
  exact ⟨hpermitted, fun hdomain => hcut (hhost.trans hdomain)⟩

theorem isAtOrUnderAny_of_permittedOutside
    {scope : DomainScope}
    {host domain : String}
    (h : Domain.IsAtOrUnderAny host (scope.permittedOutside domain)) :
    Domain.IsAtOrUnderAny host scope.permitted := by
  obtain ⟨permitted, hpermitted, hhost⟩ := h
  exact ⟨permitted, ((mem_permittedOutside _ _ _).mp hpermitted).1, hhost⟩

/-- The restricted domains when `domain` is cut out of permitted ones: a version
that takes both kinds of lists gets the domain, if a permitted one stays above. -/
def restrictedBy (version : HostVersion) (scope : DomainScope) (domain : String) : List String :=
  if version.supportsMixedDomainScope
      && (scope.permittedOutside domain).any (Domain.isWithin domain ·) then
    withDomain scope.restricted domain
  else scope.restricted

theorem exclude_eq
    (version : HostVersion)
    (scope : DomainScope)
    (domain : String) :
    scope.exclude version domain =
      if scope.permitted = [] then
        some { scope with restricted := withDomain scope.restricted domain }
      else if scope.permittedOutside domain = [] then none
      else
        some
          { permitted := scope.permittedOutside domain
            restricted := scope.restrictedBy version domain } := by
  simp only [exclude, List.isEmpty_iff]
  split
  · congr 1
    unfold restrict withDomain
    split <;> rfl
  · simp only [restrictedBy, permittedOutside, withDomain]
    cases version.supportsMixedDomainScope <;> cases scope.restricted.contains domain <;> simp

theorem isAtOrUnderAny_of_restrictedBy
    {version : HostVersion}
    {scope : DomainScope}
    {host domain : String}
    (h : Domain.IsAtOrUnderAny host (scope.restrictedBy version domain)) :
    Domain.IsAtOrUnderAny host scope.restricted ∨ Domain.IsAtOrUnder host domain := by
  unfold restrictedBy at h
  split at h
  · exact (isAtOrUnderAny_withDomain _ _ _).mp h
  · exact .inl h

theorem isAtOrUnderAny_restrictedBy
    (version : HostVersion)
    {scope : DomainScope}
    {host : String}
    (domain : String)
    (h : Domain.IsAtOrUnderAny host scope.restricted) :
    Domain.IsAtOrUnderAny host (scope.restrictedBy version domain) := by
  unfold restrictedBy
  split
  · exact (isAtOrUnderAny_withDomain _ _ _).mpr (.inl h)
  · exact h

/-- **A host under a permitted domain that stays becomes restricted with the
domain that is cut out**, if the version takes both kinds of lists: the two
domains are comparable, and the permitted one is not under the other. -/
theorem isAtOrUnderAny_restrictedBy_of_cut
    {version : HostVersion}
    {scope : DomainScope}
    {host domain : String}
    (hversion : version.supportsMixedDomainScope)
    (hpermitted : Domain.IsAtOrUnderAny host (scope.permittedOutside domain))
    (hcut : Domain.IsAtOrUnder host domain) :
    Domain.IsAtOrUnderAny host (scope.restrictedBy version domain) := by
  obtain ⟨permitted, hmem, hhost⟩ := hpermitted
  have habove : Domain.IsAtOrUnder domain permitted := by
    rcases hcut.comparable hhost with habove | hunder
    · exact habove
    · exact absurd hunder ((mem_permittedOutside _ _ _).mp hmem).2
  have hany : (scope.permittedOutside domain).any (Domain.isWithin domain ·) :=
    List.any_eq_true.mpr ⟨permitted, hmem, (Domain.isWithin_iff _ _).mpr habove⟩
  rw [restrictedBy, hversion, hany, Bool.and_self, if_pos rfl]
  exact (isAtOrUnderAny_withDomain _ _ _).mpr (.inr hcut)

/-- **One domain is cut out.** -/
theorem cutsOut_exclude
    (version : HostVersion)
    (scope : DomainScope)
    (domain : String) :
    CutsOut version (Domain.IsAtOrUnder · domain) scope (scope.exclude version domain) := by
  rw [exclude_eq]
  split
  case isTrue hgeneric =>
    have happlies (host : String) :
        AppliesOn { scope with restricted := withDomain scope.restricted domain } host ↔
          scope.AppliesOn host ∧ ¬ Domain.IsAtOrUnder host domain := by
      simp only [AppliesOn, Covers, isAtOrUnderAny_withDomain, not_or, and_assoc]
    apply CutsOut.of_some
    · exact fun host h => ((happlies host).mp h).1
    · exact fun host h hcut => (happlies host).mpr ⟨h, hcut⟩
    · exact fun _ host hcut h => ((happlies host).mp h).2 hcut
    · exact fun _ => hgeneric
  case isFalse hspecific =>
    split
    case isTrue houtside =>
      -- every permitted domain was at or under the one that is cut out
      apply CutsOut.of_none
      intro host happlies
      by_contra hcut
      obtain ⟨permitted, hpermitted, -⟩ :=
        isAtOrUnderAny_permittedOutside (happlies.1.resolve_left hspecific) hcut
      rw [houtside] at hpermitted
      cases hpermitted
    case isFalse hstays =>
      apply CutsOut.of_some
      · rintro host ⟨hcovers, hnot⟩
        have houtside := hcovers.resolve_left hstays
        refine ⟨.inr (isAtOrUnderAny_of_permittedOutside houtside), ?_⟩
        exact fun h => hnot (isAtOrUnderAny_restrictedBy version domain h)
      · rintro host ⟨hcovers, hnot⟩ hcut
        refine ⟨.inr (isAtOrUnderAny_permittedOutside (hcovers.resolve_left hspecific) hcut), ?_⟩
        intro hrestricted
        rcases isAtOrUnderAny_of_restrictedBy hrestricted with h | h
        · exact hnot h
        · exact hcut h
      · -- only here the version matters: the domain has to become restricted
        rintro hversion host hcut ⟨hcovers, hnot⟩
        have houtside := hcovers.resolve_left hstays
        have hmixed := hversion.resolve_right hspecific
        exact hnot (isAtOrUnderAny_restrictedBy_of_cut hmixed houtside hcut)
      · exact fun h => absurd h hspecific

/-! ## Exceptions -/

/-- **All domains of a list are cut out.** -/
theorem cutsOut_excludeAll
    (version : HostVersion)
    (scope : DomainScope)
    (domains : List String) :
    CutsOut version (Domain.IsAtOrUnderAny · domains) scope
      (scope.excludeAll version domains) := by
  rw [excludeAll_eq_foldlM]
  exact CutsOut.foldlM (cutsOut_exclude version) scope domains

/-- **What an exception covers is cut out.** -/
theorem cutsOut_except
    (version : HostVersion)
    (scope exception : DomainScope) :
    CutsOut version exception.Covers scope (scope.except version exception) := by
  simp only [except, List.isEmpty_iff]
  split
  · next hgeneric =>
      apply CutsOut.of_none
      exact fun _ _ => .inl hgeneric
  · next hspecific =>
      apply (cutsOut_excludeAll version scope exception.permitted).congr
      simp [Covers, hspecific]

/-- **What some exceptions cover is cut out.** -/
theorem cutsOut_exceptAll
    (version : HostVersion)
    (scope : DomainScope)
    (exceptions : List DomainScope) :
    CutsOut version (fun host => ∃ exception ∈ exceptions, exception.Covers host) scope
      (scope.exceptAll version exceptions) := by
  rw [exceptAll_eq_foldlM]
  exact CutsOut.foldlM (cutsOut_except version) scope exceptions

end DomainScope

/-! ## Rules -/

namespace CosmeticRule

/-- The rule applies on the host. -/
def AppliesOn (rule : CosmeticRule) (host : String) : Prop := rule.header.scope.AppliesOn host

instance (rule : CosmeticRule) (host : String) : Decidable (rule.AppliesOn host) :=
  inferInstanceAs (Decidable (rule.header.scope.AppliesOn host))

/-- The rule, as an exception, covers the host. -/
def Covers (rule : CosmeticRule) (host : String) : Prop := rule.header.scope.Covers host

theorem exists_narrow_appliesOn_iff
    (version : HostVersion)
    (rule : CosmeticRule)
    (exceptions : List CosmeticRule)
    (host : String) :
    (∃ left ∈ rule.narrow version exceptions, left.AppliesOn host) ↔
      DomainScope.LeftAppliesOn
        (rule.header.scope.exceptAll version (exceptions.map (·.header.scope))) host := by
  simp [narrow, AppliesOn, DomainScope.LeftAppliesOn, Option.map_eq_some_iff]

/-- **Exceptions act exactly on the hosts that they cover.**  A narrowed rule
applies on no other host than before, and a host is lost only if an exception
covers it.  No covered host is left if the version takes both kinds of domain
lists, or if the rule permits no domain. -/
theorem appliesOn_narrow
    (version : HostVersion)
    (rule : CosmeticRule)
    (exceptions : List CosmeticRule)
    (host : String) :
    ((∃ left ∈ rule.narrow version exceptions, left.AppliesOn host) → rule.AppliesOn host) ∧
    (rule.AppliesOn host →
      (¬ ∃ left ∈ rule.narrow version exceptions, left.AppliesOn host) →
      ∃ exception ∈ exceptions, exception.Covers host) ∧
    (.v16_4 ≤ version ∨ rule.header.scope.permitted = [] →
      (∃ exception ∈ exceptions, exception.Covers host) →
      ¬ ∃ left ∈ rule.narrow version exceptions, left.AppliesOn host) := by
  have hcuts :=
    DomainScope.cutsOut_exceptAll version rule.header.scope (exceptions.map (·.header.scope))
  have hcovers :
      (∃ exception ∈ exceptions.map (·.header.scope), exception.Covers host) ↔
        ∃ exception ∈ exceptions, exception.Covers host := by
    simp [Covers]
  rw [exists_narrow_appliesOn_iff]
  refine ⟨hcuts.subset host, ?_, ?_⟩
  · intro happlies hleft
    by_contra hcovered
    exact hleft (hcuts.kept host happlies (hcovered ∘ hcovers.mp))
  · intro hversion hcovered
    exact hcuts.lost (hversion.imp_left decide_eq_true) host (hcovers.mpr hcovered)

end CosmeticRule
end FilterCompiler
