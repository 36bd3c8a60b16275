import FilterCompiler.Proofs.Text
import FilterCompiler.Rule.Batch

/-!
# What a line comes to

A rule of a batch has been read from a line in canonical form that one of the lines comes
to (`RuleBatch.exists_ofLine_of_mem`).  A line that is trimmed and canonical comes to what
is read from it (`Rule.outcomes_of_ofLine`).  A cosmetic rule is read part by part and then
checked as a whole (`CosmeticRule.ofCut_eq_ok_iff`).
-/

namespace FilterCompiler

/-! ## What stands in front of a marker -/

namespace PageScope

variable {s options list : List Char}

/-- Without a bracket in front it is a plain list of domains. -/
theorem parse_of_head?_ne
    [DomainEncoder]
    (h : s.head? ≠ some '[') :
    parse s = if s = [] ∨ s = ['*'] then .ok everywhere else everywhere.addDomains s := by
  unfold parse
  split
  · rfl
  · rfl
  · exact absurd rfl h
  · exact absurd rfl h
  · next hnil hstar _ _ => rw [if_neg (not_or.mpr ⟨hnil, hstar⟩)]

/-- Options in brackets follow a dollar sign. -/
theorem parse_of_head?_ne_dollar
    [DomainEncoder]
    (h : s.head? ≠ some '$') :
    parse ('[' :: s) = .error .notOptionList := by
  rcases s with _ | ⟨d, s⟩
  · rfl
  · rw [List.head?_cons, Ne, Option.some.injEq] at h
    rw [parse]
    simp [h]

/-- The list of options goes to the last bracket. -/
theorem parse_optionList
    [DomainEncoder]
    (hclose : ']' ∉ list)
    (options : List Char) :
    parse ('[' :: '$' :: (options ++ ']' :: list)) = ofOptionList options list := by
  have hbreak := Text.breakAtLast?_append_cons hclose options
  obtain ⟨c, rest, hrest⟩ := List.exists_cons_of_ne_nil
    (List.append_ne_nil_of_right_ne_nil options (List.cons_ne_nil ']' list))
  rw [hrest] at hbreak ⊢
  rw [parse, hbreak]

end PageScope

/-! ## Cosmetic rules -/

namespace CosmeticRule

variable {version : HostVersion} {line : String} {cut : Marker.Cut} {rule rule' : CosmeticRule}

theorem validate_eq_ok_iff :
    rule.validate = .ok rule' ↔
      (rule.kind = .style → ¬ loadFunction <:+: rule.content.toList) ∧
      (rule.header.isException → rule.path = none) ∧
      rule' = rule := by
  unfold validate
  split
  · next h =>
      rw [Text.occurs_iff] at h
      simp [h]
  split
  · next h => simp [h, Option.isSome_iff_ne_none.mp h.2]
  · next hload hpath =>
      rw [Text.occurs_iff, not_and] at hload
      rw [not_and, Option.not_isSome_iff_eq_none] at hpath
      rw [Except.ok.injEq, eq_comm]
      exact ⟨fun h => ⟨hload, hpath, h⟩, fun h => h.2.2⟩

theorem ofCut_eq_ok_iff [DomainEncoder] :
    ofCut version line cut = .ok rule ↔
      cut.content ≠ [] ∧
      ∃ kind isScriptlet scope,
        cut.marker.kind? = some kind ∧
        readCall kind (String.ofList cut.content) = .ok isScriptlet ∧
        PageScope.parse cut.domains = .ok scope ∧
        validate
          { header :=
              { text := line, isException := cut.marker.isException,
                isImportant := false, scope := scope.domains }
            content := String.ofList cut.content
            kind
            isExtended := cut.marker.isExtended || Selector.isExtended version cut.content
            isScriptlet
            path := scope.path } = .ok rule := by
  unfold ofCut
  split
  · next h => simp [List.isEmpty_iff.mp h]
  next hcontent =>
  rw [List.isEmpty_iff] at hcontent
  split
  · next hkind => simp [hkind]
  next kind hkind =>
  dsimp only
  split
  · next hcall => simp [hkind, hcall]
  next isScriptlet hcall =>
  split
  · next hscope => simp [hkind, hscope]
  · next scope hscope =>
      constructor
      · intro h
        exact ⟨hcontent, kind, isScriptlet, scope, hkind, hcall, hscope, h⟩
      · rintro ⟨-, kind', isScriptlet', scope', hkind', hcall', hscope', h⟩
        cases hkind.symm.trans hkind'
        cases hcall.symm.trans hcall'
        cases hscope.symm.trans hscope'
        exact h

end CosmeticRule

namespace Rule

variable {version : HostVersion} {line : String} {rule : Rule}

theorem ofLine_of_outcome?
    [DomainEncoder]
    (h : outcome? version line = some (.ok rule)) :
    ofLine version line = .ok (some rule) := by
  unfold outcome? at h
  split at h
  · cases h
  · next hline =>
      cases h
      exact hline
  · cases h

/-- A rule that a line comes to is read from one of its canonical lines. -/
theorem exists_ofLine_of_mem_outcomes
    [DomainEncoder]
    (h : .ok rule ∈ outcomes version line) :
    ∃ canonical, ofLine version canonical = .ok (some rule) := by
  unfold outcomes at h
  simp only at h
  split at h
  · cases h
  split at h
  · simp at h
  · obtain ⟨canonical, -, hcanonical⟩ := List.mem_filterMap.mp h
    exact ⟨canonical, ofLine_of_outcome? hcanonical⟩

/-- **A trimmed line in canonical form comes to the rule that is read from it.** -/
theorem outcomes_of_ofLine
    [DomainEncoder]
    (htrim : Text.trim line.toList = line.toList)
    (hcanonical : Canonical.lines line = .ok [line])
    (h : ofLine version line = .ok (some rule)) :
    outcomes version line = [.ok rule] := by
  have hskipped : isSkipped line.toList = false := by
    cases hskipped : isSkipped line.toList with
    | false => rfl
    | true =>
        rw [ofLine, if_pos hskipped] at h
        cases h
  rw [outcomes]
  simp only [htrim, hskipped, String.ofList_toList, hcanonical]
  simp [outcome?, h]

end Rule

namespace RuleBatch

variable {version : HostVersion} {lines : List String} {rule : Rule}

theorem mem_rules_iff [DomainEncoder] :
    rule ∈ (ofLines version lines).rules ↔ ∃ line ∈ lines, .ok rule ∈ Rule.outcomes version line := by
  constructor
  · intro h
    obtain ⟨outcome, houtcome, hrule⟩ := List.mem_filterMap.mp h
    obtain ⟨line, hline, houtcome⟩ := List.mem_flatMap.mp houtcome
    cases outcome with
    | error e => cases hrule
    | ok rule' =>
        cases hrule
        exact ⟨line, hline, houtcome⟩
  · rintro ⟨line, hline, h⟩
    exact List.mem_filterMap.mpr ⟨.ok rule, List.mem_flatMap.mpr ⟨line, hline, h⟩, rfl⟩

/-- **Every rule of a batch has been read from a line in canonical form.** -/
theorem exists_ofLine_of_mem
    [DomainEncoder]
    (h : rule ∈ (ofLines version lines).rules) :
    ∃ line, Rule.ofLine version line = .ok (some rule) := by
  obtain ⟨line, -, houtcome⟩ := mem_rules_iff.mp h
  exact Rule.exists_ofLine_of_mem_outcomes houtcome

end RuleBatch
end FilterCompiler
