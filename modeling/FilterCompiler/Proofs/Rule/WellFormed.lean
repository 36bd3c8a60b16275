import FilterCompiler.Proofs.Ascii
import FilterCompiler.Proofs.Pattern.Dialect
import FilterCompiler.Proofs.Rule.Network
import FilterCompiler.Proofs.Rule.Outcomes
import FilterCompiler.Rule.Batch
import FilterCompiler.Ruleset.RuleEntry

/-!
# Rules that are read are well formed

A rule is well formed if its domains are ASCII and its filters are in the
host's dialect.  Every way to read a domain ends in its encoding, which is in
ASCII (`DomainEncoder.IsAscii`), and every way to read a pattern ends in a check
of its regex: those of network rules are checked with the rule as a whole, those
of path conditions on their own.  The main result is
`RuleBatch.wellFormed_ofLines`.
-/

namespace FilterCompiler

/-! ## Scopes -/

/-- All domains of the scope are ASCII. -/
structure DomainScope.IsAscii (scope : DomainScope) : Prop where
  permitted : ∀ domain ∈ scope.permitted, Text.AllAscii domain.toList
  restricted : ∀ domain ∈ scope.restricted, Text.AllAscii domain.toList

namespace DomainItem

theorem allAscii_of_readDomain
    [DomainEncoder]
    [DomainEncoder.IsAscii]
    {item : List Char}
    {domain : String}
    (h : readDomain item = .ok domain) :
    Text.AllAscii domain.toList := by
  unfold readDomain at h
  split at h
  · cases h
  split at h
  · cases h
  split at h
  · cases h
  split at h
  · cases h
  split at h
  · next hdomain =>
      cases h
      exact Domain.allAscii_toAscii hdomain
  · cases h

theorem allAscii_of_read
    [DomainEncoder]
    [DomainEncoder.IsAscii]
    {item : List Char}
    {first : DomainItem}
    (h : read item = .ok first) :
    Text.AllAscii first.domain.toList := by
  unfold read at h
  simp only at h
  split at h
  · next hdomain =>
      cases h
      exact allAscii_of_readDomain hdomain
  · cases h

theorem allAscii_of_readAll
    [DomainEncoder]
    [DomainEncoder.IsAscii]
    {list : List (List Char)}
    {items : List DomainItem}
    (h : readAll list = .ok items) :
    ∀ item ∈ items, Text.AllAscii item.domain.toList := by
  rw [readAll_eq_mapM] at h
  exact forall_mem_of_mapM (fun _ _ => allAscii_of_read) h

end DomainItem

namespace DomainScope

theorem isAscii_everywhere :
    everywhere.IsAscii := by
  constructor
  all_goals simp [everywhere]

theorem IsAscii.append
    {scope scope' : DomainScope}
    (h : scope.IsAscii)
    (h' : scope'.IsAscii) :
    (scope ++ scope').IsAscii := by
  constructor
  · exact List.forall_mem_append.mpr ⟨h.permitted, h'.permitted⟩
  · exact List.forall_mem_append.mpr ⟨h.restricted, h'.restricted⟩

/-- A list of domains is read as an ASCII scope. -/
theorem isAscii_of_ofList
    [DomainEncoder]
    [DomainEncoder.IsAscii]
    {sep : Char}
    {list : List Char}
    {scope : DomainScope}
    (h : ofList sep list = .ok scope) :
    scope.IsAscii := by
  unfold ofList at h
  split at h
  · next items hitems =>
      cases h
      have hall := DomainItem.allAscii_of_readAll hitems
      constructor
      all_goals
        intro domain hdomain
        obtain ⟨item, hitem, rfl⟩ := List.mem_map.mp hdomain
        exact hall item (List.mem_filter.mp hitem).1
  · cases h

end DomainScope

/-! ## Network rules -/

theorem Pattern.check_matchAll :
    Regex.check matchAll = .ok () := by
  decide

/-- The domains and the pattern of the rule are ASCII, and its filter is in the
dialect. -/
structure NetworkRule.WellFormed (rule : NetworkRule) : Prop where
  scope : rule.header.scope.IsAscii
  pattern : Text.AllAscii rule.pattern.toList
  filter : Regex.check rule.urlFilter = .ok ()

namespace Modifier

/-- The domains that the modifier adds are ASCII. -/
def IsAscii : Modifier → Prop
  | domains scope => scope.IsAscii
  | _ => True

theorem isAscii_of_ofName
    {version : HostVersion}
    {name : List Char}
    {m : Modifier}
    (h : ofName version name = .ok m) :
    m.IsAscii := by
  unfold ofName at h
  split at h
  · cases h; trivial
  · cases h; trivial
  · cases h; trivial
  · cases h; trivial
  · cases h; trivial
  · split at h
    · cases h; trivial
    · cases h; trivial
    · obtain ⟨t, -, -, rfl⟩ := ofTypeName_eq_ok_iff.mp h
      trivial

theorem isAscii_of_parse
    [DomainEncoder]
    [DomainEncoder.IsAscii]
    {version : HostVersion}
    {option : List Char}
    {m : Modifier}
    (h : parse version option = .ok m) :
    m.IsAscii := by
  rcases (parse_eq_ok_iff rfl).mp h with
    ⟨-, rfl⟩ | ⟨-, ⟨-, -, scope, hscope, rfl⟩ | ⟨-, -, hname⟩⟩
  · trivial
  · exact DomainScope.isAscii_of_ofList hscope
  · exact isAscii_of_ofName hname

theorem isAscii_of_parseAll
    [DomainEncoder]
    [DomainEncoder.IsAscii]
    {version : HostVersion}
    {options : List (List Char)}
    {ms : List Modifier}
    (h : parseAll version options = .ok ms) :
    ∀ m ∈ ms, m.IsAscii := by
  rw [parseAll_eq_mapM] at h
  exact forall_mem_of_mapM (fun _ _ => isAscii_of_parse) h

/-- A modifier keeps the domains of a rule ASCII. -/
theorem isAscii_apply
    {m : Modifier}
    {rule : NetworkRule}
    (hm : m.IsAscii)
    (h : rule.header.scope.IsAscii) :
    (m.apply rule).header.scope.IsAscii := by
  cases m with
  | domains scope => exact h.append hm
  | contentType t negated => cases negated <;> exact h
  | filler | matchCase | important | badfilter | party | page => exact h

end Modifier

namespace NetworkRule

/-- Modifiers keep the domains of a rule ASCII. -/
theorem isAscii_modify
    {ms : List Modifier}
    {rule : NetworkRule}
    (hms : ∀ m ∈ ms, m.IsAscii)
    (h : rule.header.scope.IsAscii) :
    (rule.modify ms).header.scope.IsAscii := by
  induction ms generalizing rule with
  | nil => exact h
  | cons m ms ih =>
      rw [List.forall_mem_cons] at hms
      exact ih hms.2 (Modifier.isAscii_apply hms.1 h)

theorem header_narrowToDocuments
    (rule : NetworkRule) :
    rule.narrowToDocuments.header = rule.header := by
  unfold narrowToDocuments
  split <;> rfl

/-- The checked regex of a rule is its filter; a rule without regex has the
filter that every URL matches. -/
theorem check_urlFilter
    {rule : NetworkRule}
    (h : rule.checkRegex = .ok ()) :
    Regex.check rule.urlFilter = .ok () := by
  unfold checkRegex at h
  unfold urlFilter
  split at h
  · next hregex =>
      rw [hregex]
      exact Pattern.check_matchAll
  · next regex hregex =>
      split at h
      · next hcheck =>
          rw [hregex]
          exact hcheck
      · cases h

/-- A rule whose pattern has been set and whose regex has been checked is well
formed. -/
theorem wellFormed_of_withPattern
    [DomainEncoder]
    {rule rule' : NetworkRule}
    {pattern : String}
    (hscope : rule.header.scope.IsAscii)
    (hpattern : rule.withPattern pattern = .ok rule')
    (hcheck : rule'.checkRegex = .ok ()) :
    rule'.WellFormed := by
  have hfilter := check_urlFilter hcheck
  rcases withPattern_cases hpattern with
    ⟨body, hbody, rfl⟩ | ⟨-, encoded, -, ⟨hempty, rfl⟩ | ⟨-, regex, hregex, rfl⟩⟩
  · refine ⟨hscope, ?_, hfilter⟩
    have hascii : Text.AllAscii body.toList := Regex.allAscii_of_check hfilter
    rw [(Pattern.literalRegex?_eq_some_iff.mp hbody).2, Text.AllAscii, List.forall_mem_cons,
      List.forall_mem_append]
    exact ⟨by decide, hascii, List.forall_mem_singleton.mpr (by decide)⟩
  · refine ⟨hscope, ?_, hfilter⟩
    simp [hempty, Text.AllAscii]
  · exact ⟨hscope, Pattern.isAscii_of_toRegex hregex, hfilter⟩

/-- **A network rule that is read is well formed.** -/
theorem wellFormed_of_parse
    [DomainEncoder]
    [DomainEncoder.IsAscii]
    {version : HostVersion}
    {line : String}
    {rule : NetworkRule}
    (h : parse version line = .ok rule) :
    rule.WellFormed := by
  obtain ⟨-, ms, hms, hpattern, hvalid⟩ := parse_eq_ok_iff.mp h
  obtain ⟨-, -, hcheck, -⟩ := validate_eq_ok_iff.mp hvalid
  refine wellFormed_of_withPattern ?_ hpattern hcheck
  rw [ofModified, header_narrowToDocuments]
  exact isAscii_modify (Modifier.isAscii_of_parseAll hms) DomainScope.isAscii_everywhere

end NetworkRule

/-! ## Cosmetic rules -/

/-- The domains of the scope are ASCII, and the regex of its path is in the
dialect. -/
structure PageScope.WellFormed (scope : PageScope) : Prop where
  domains : scope.domains.IsAscii
  path : ∀ condition ∈ scope.path, Regex.check condition.regex = .ok ()

/-- The domains of the rule are ASCII, and the regex of its path is in the
dialect. -/
structure CosmeticRule.WellFormed (rule : CosmeticRule) : Prop where
  scope : rule.header.scope.IsAscii
  path : ∀ condition ∈ rule.path, Regex.check condition.regex = .ok ()

namespace PageCondition

/-- The domains of the condition are ASCII, or its regex is in the dialect. -/
def WellFormed : PageCondition → Prop
  | domains scope => scope.IsAscii
  | path condition => Regex.check condition.regex = .ok ()

theorem wellFormed_of_ofPath
    {value : List Char}
    {condition : PageCondition}
    (h : ofPath value = .ok condition) :
    condition.WellFormed := by
  unfold ofPath at h
  split at h
  · cases h
  split at h
  · cases h
  split at h
  · cases h
  · next hcheck =>
      cases h
      exact hcheck

theorem wellFormed_of_parse
    [DomainEncoder]
    [DomainEncoder.IsAscii]
    {option : List Char}
    {condition : PageCondition}
    (h : parse option = .ok condition) :
    condition.WellFormed := by
  unfold parse at h
  simp only at h
  split at h
  case h_3 => exact wellFormed_of_ofPath h
  case h_4 => cases h
  -- both names of a list of domains
  all_goals
    split at h
    · cases h
    · split at h
      · next hscope =>
          cases h
          exact DomainScope.isAscii_of_ofList hscope
      · cases h

theorem wellFormed_of_parseAll
    [DomainEncoder]
    [DomainEncoder.IsAscii]
    {options : List (List Char)}
    {conditions : List PageCondition}
    (h : parseAll options = .ok conditions) :
    ∀ condition ∈ conditions, condition.WellFormed := by
  rw [parseAll_eq_mapM] at h
  exact forall_mem_of_mapM (fun _ _ => wellFormed_of_parse) h

end PageCondition

namespace PageScope

theorem wellFormed_everywhere :
    everywhere.WellFormed := by
  refine ⟨DomainScope.isAscii_everywhere, ?_⟩
  rintro condition ⟨⟩

theorem WellFormed.add
    {scope : PageScope}
    {condition : PageCondition}
    (h : scope.WellFormed)
    (hcondition : condition.WellFormed) :
    (scope.add condition).WellFormed := by
  cases condition with
  | domains more => exact ⟨h.domains.append hcondition, h.path⟩
  | path condition =>
      refine ⟨h.domains, ?_⟩
      rintro _ ⟨⟩
      exact hcondition

theorem WellFormed.foldl_add
    {scope : PageScope}
    {conditions : List PageCondition}
    (h : scope.WellFormed)
    (hconditions : ∀ condition ∈ conditions, condition.WellFormed) :
    (conditions.foldl PageScope.add scope).WellFormed := by
  induction conditions generalizing scope with
  | nil => exact h
  | cons condition conditions ih =>
      rw [List.forall_mem_cons] at hconditions
      exact ih (h.add hconditions.1) hconditions.2

theorem WellFormed.of_addDomains
    [DomainEncoder]
    [DomainEncoder.IsAscii]
    {scope scope' : PageScope}
    {list : List Char}
    (h : scope.WellFormed)
    (hscope : scope.addDomains list = .ok scope') :
    scope'.WellFormed := by
  unfold addDomains at hscope
  split at hscope
  · next hdomains =>
      cases hscope
      exact ⟨h.domains.append (DomainScope.isAscii_of_ofList hdomains), h.path⟩
  · cases hscope

theorem wellFormed_of_ofOptionList
    [DomainEncoder]
    [DomainEncoder.IsAscii]
    {options list : List Char}
    {scope : PageScope}
    (h : ofOptionList options list = .ok scope) :
    scope.WellFormed := by
  unfold ofOptionList at h
  split at h
  · cases h
  · next hconditions =>
      have hfold := wellFormed_everywhere.foldl_add
        (PageCondition.wellFormed_of_parseAll hconditions)
      simp only at h
      split at h
      · cases h
        exact hfold
      · exact hfold.of_addDomains h

/-- What stands before a marker is read as a well-formed scope. -/
theorem wellFormed_of_parse
    [DomainEncoder]
    [DomainEncoder.IsAscii]
    {text : List Char}
    {scope : PageScope}
    (h : parse text = .ok scope) :
    scope.WellFormed := by
  unfold parse at h
  split at h
  · cases h
    exact wellFormed_everywhere
  · cases h
    exact wellFormed_everywhere
  · split at h
    · cases h
    · exact wellFormed_of_ofOptionList h
  · cases h
  · exact wellFormed_everywhere.of_addDomains h

end PageScope

namespace CosmeticRule

/-- **A cosmetic rule that is read is well formed.** -/
theorem wellFormed_of_ofCut
    [DomainEncoder]
    [DomainEncoder.IsAscii]
    {version : HostVersion}
    {line : String}
    {cut : Marker.Cut}
    {rule : CosmeticRule}
    (h : ofCut version line cut = .ok rule) :
    rule.WellFormed := by
  obtain ⟨-, kind, isScriptlet, scope, -, -, hscope, hvalid⟩ := ofCut_eq_ok_iff.mp h
  obtain ⟨-, -, rfl⟩ := validate_eq_ok_iff.mp hvalid
  have hwell := PageScope.wellFormed_of_parse hscope
  exact ⟨hwell.domains, hwell.path⟩

end CosmeticRule

/-! ## Rules and batches -/

/-- The rule is well formed as a rule of its kind. -/
def Rule.WellFormed : Rule → Prop
  | network rule => rule.WellFormed
  | cosmetic rule => rule.WellFormed

/-- A line is read as a well-formed rule. -/
theorem Rule.wellFormed_of_ofLine
    [DomainEncoder]
    [DomainEncoder.IsAscii]
    {version : HostVersion}
    {line : String}
    {rule : Rule}
    (h : ofLine version line = .ok (some rule)) :
    rule.WellFormed := by
  unfold ofLine at h
  split at h
  · cases h
  split at h
  · cases h
  split at h
  · next cut _ =>
      cases hrule : CosmeticRule.ofCut version line cut with
      | error e => rw [hrule] at h; cases h
      | ok rule' =>
          rw [hrule] at h
          cases h
          exact CosmeticRule.wellFormed_of_ofCut hrule
  · cases hrule : NetworkRule.parse version line with
    | error e => rw [hrule] at h; cases h
    | ok rule' =>
        rw [hrule] at h
        cases h
        exact NetworkRule.wellFormed_of_parse hrule

/-- **All rules of a batch are well formed.** -/
theorem RuleBatch.wellFormed_ofLines
    [DomainEncoder]
    [DomainEncoder.IsAscii]
    (version : HostVersion)
    (lines : List String) :
    ∀ rule ∈ (ofLines version lines).rules, rule.WellFormed := by
  intro rule hrule
  obtain ⟨line, hline⟩ := exists_ofLine_of_mem hrule
  exact Rule.wellFormed_of_ofLine hline

end FilterCompiler
