import FilterCompiler.Proofs.Conversion.Accounting
import FilterCompiler.Proofs.Rule.NewerHost
import Mathlib.Data.List.Forall2

/-!
# Conversions for a newer host

A newer host gets the rules of an older one, in order and in between others
(`sublistForall₂_ofLines`).  What the lines call for does not hang on the version, so
what is read in addition was an error before (`run_newerHost`).
-/

namespace FilterCompiler

variable {v w : HostVersion}

/-! ## Rules in between others -/

theorem sublistForall₂_flatMap
    {α β γ : Type}
    {R : β → γ → Prop}
    {f : α → List β}
    {g : α → List γ}
    (h : ∀ a, List.SublistForall₂ R (f a) (g a))
    (l : List α) :
    List.SublistForall₂ R (l.flatMap f) (l.flatMap g) := by
  simp only [List.sublistForall₂_iff] at h ⊢
  induction l with
  | nil => exact ⟨[], .nil, .slnil⟩
  | cons a l ih =>
      obtain ⟨first, hfirst, hfirst'⟩ := h a
      obtain ⟨rest, hrest, hrest'⟩ := ih
      exact ⟨first ++ rest, List.rel_append hfirst hrest, hfirst'.append hrest'⟩

theorem length_le_of_sublistForall₂
    {β γ : Type}
    {R : β → γ → Prop}
    {l : List β}
    {l' : List γ}
    (h : List.SublistForall₂ R l l') :
    l.length ≤ l'.length := by
  obtain ⟨part, hpart, hsublist⟩ := List.sublistForall₂_iff.mp h
  rw [hpart.length_eq]
  exact hsublist.length_le

/-! ## Lines -/

namespace Rule

theorem ofLine_eq_ok_none_iff
    (version : HostVersion)
    (line : String) :
    ofLine version line = .ok none ↔ isSkipped line.toList := by
  have hsome := isSome_outcome? version line
  unfold outcome? at hsome
  split at hsome
  · next hnone => simpa [hnone] using hsome
  · next hrule => simpa [hrule] using hsome
  · next herror => simpa [herror] using hsome

/-- The rules that a line in canonical form comes to: one or none. -/
def rulesOf [DomainEncoder] (version : HostVersion) (line : String) : List Rule :=
  ((outcome? version line).bind Except.toOption).toList

theorem sublistForall₂_rulesOf
    (h : v ≤ w)
    (line : String) :
    List.SublistForall₂ IsReadAs (rulesOf v line) (rulesOf w line) := by
  cases hline : ofLine v line with
  | error e =>
      have hnil : rulesOf v line = [] := by simp [rulesOf, outcome?, hline, Except.toOption]
      rw [hnil]
      exact .nil
  | ok older =>
      cases older with
      | none =>
          have hnil : rulesOf v line = [] := by simp [rulesOf, outcome?, hline]
          rw [hnil]
          exact .nil
      | some older =>
          obtain ⟨newer, hnewer, hread⟩ := isReadAs_of_ofLine h hline
          have holder : rulesOf v line = [older] := by
            simp [rulesOf, outcome?, hline, Except.toOption]
          have hnewer' : rulesOf w line = [newer] := by
            simp [rulesOf, outcome?, hnewer, Except.toOption]
          rw [holder, hnewer']
          exact .cons hread .nil

theorem sublistForall₂_outcomes
    (h : v ≤ w)
    (line : String) :
    List.SublistForall₂ IsReadAs
      ((outcomes v line).filterMap Except.toOption)
      ((outcomes w line).filterMap Except.toOption) := by
  simp only [outcomes]
  split
  · exact .nil
  · split
    · exact .nil
    · next lines _ =>
        rw [List.filterMap_filterMap, List.filterMap_filterMap,
          List.filterMap_eq_flatMap_toList, List.filterMap_eq_flatMap_toList]
        exact sublistForall₂_flatMap (sublistForall₂_rulesOf h) lines

end Rule

/-- **A newer host gets the rules of an older one**, in order and in between others. -/
theorem RuleBatch.sublistForall₂_ofLines
    (h : v ≤ w)
    (lines : List String) :
    List.SublistForall₂ Rule.IsReadAs (ofLines v lines).rules (ofLines w lines).rules := by
  simp only [ofLines, ofOutcomes, List.filterMap_flatMap]
  exact sublistForall₂_flatMap (Rule.sublistForall₂_outcomes h) lines

/-! ## Conversions -/

namespace Conversion

/-- **A newer host never accepts less.**  A line that is skipped for an old host is
skipped for a new one, and a line that is read as a rule is read as the same rule,
except that a cosmetic rule may have come to do without the extended engine.  Of a
list of lines a new host therefore gets no more errors, and as many rules more as it
gets errors less. -/
theorem run_newerHost
    (h : v ≤ w) :
    (∀ line, Rule.ofLine v line = .ok none → Rule.ofLine w line = .ok none) ∧
      (∀ line rule, Rule.ofLine v line = .ok (some rule) →
        ∃ newer, Rule.ofLine w line = .ok (some newer) ∧ rule.IsReadAs newer) ∧
      ∀ (options options' : ConversionOptions) (lines : List String),
        options.version = v → options'.version = w →
          let older := (run options (.always false) lines).conversion
          let newer := (run options' (.always false) lines).conversion
          newer.errorsCount ≤ older.errorsCount ∧
            newer.sourceRulesCount + newer.errorsCount =
              older.sourceRulesCount + older.errorsCount := by
  refine ⟨?_, ?_, ?_⟩
  · intro line hline
    rw [Rule.ofLine_eq_ok_none_iff] at hline ⊢
    exact hline
  · intro line rule
    exact Rule.isReadAs_of_ofLine h
  · rintro options options' lines rfl rfl older newer
    have holder :
        older.sourceRulesCount + older.errorsCount = (lines.map Rule.calledFor).sum :=
      RuleBatch.length_rules_add_errors options.version lines
    have hnewer :
        newer.sourceRulesCount + newer.errorsCount = (lines.map Rule.calledFor).sum :=
      RuleBatch.length_rules_add_errors options'.version lines
    have hmore : older.sourceRulesCount ≤ newer.sourceRulesCount :=
      length_le_of_sublistForall₂ (RuleBatch.sublistForall₂_ofLines h lines)
    omega

/-- Version 14 came to know a content type and a pseudo-class: the first line is no
longer an error, and the second one no longer needs the extended engine. -/
theorem run_newerHost_fourteen :
    let options : ConversionOptions := { version := .v13, advanced := false, maxJsonSize := none }
    let lines := ["||example.com^$ping", "##div:is(.a, .b)", "! title"]
    let rule : CosmeticRule :=
      { header :=
          { text := "##div:is(.a, .b)", isException := false, isImportant := false,
            scope := .everywhere }
        content := "div:is(.a, .b)"
        kind := .hiding
        isExtended := true
        isScriptlet := false
        path := none }
    let older := (run options (.always false) lines).conversion
    let newer := (run { options with version := .v14 } (.always false) lines).conversion
    HostVersion.v13 ≤ .v14 ∧
      Rule.ofLine .v13 "! title" = .ok none ∧ Rule.ofLine .v14 "! title" = .ok none ∧
      Rule.ofLine .v13 "##div:is(.a, .b)" = .ok (some (.cosmetic rule)) ∧
      (∃ newerRule, Rule.ofLine .v14 "##div:is(.a, .b)" = .ok (some newerRule) ∧
        (Rule.cosmetic rule).IsReadAs newerRule) ∧
      older.errorsCount = 1 ∧ newer.errorsCount = 0 ∧ newer.errorsCount ≤ older.errorsCount ∧
      newer.sourceRulesCount + newer.errorsCount = older.sourceRulesCount + older.errorsCount := by
  intro options lines rule older newer
  have hle : HostVersion.v13 ≤ .v14 := by decide
  have htitle : Rule.ofLine .v13 "! title" = .ok none := rfl
  have hrule : Rule.ofLine .v13 "##div:is(.a, .b)" = .ok (some (.cosmetic rule)) := rfl
  have holder : older.errorsCount = 1 := by decide +kernel
  have hnewer : newer.errorsCount = 0 := by decide +kernel
  obtain ⟨hskipped, hread, hcounts⟩ := run_newerHost hle
  obtain ⟨herrors, hsum⟩ := hcounts options { options with version := .v14 } lines rfl rfl
  exact ⟨hle, htitle, hskipped _ htitle, hrule, hread _ _ hrule, holder, hnewer, herrors, hsum⟩

end Conversion
end FilterCompiler
