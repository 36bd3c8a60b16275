import FilterCompiler.Proofs.Conversion.HostRules
import FilterCompiler.Proofs.Ruleset.Decoding

/-!
# Conversions and the letter case of domains

A ruleset writes domains in small letters, so the letter case of domains should not show
in it.  It does not where domains agree in case wherever exceptions and badfilter rules
compare them, if domains are encoded without a look at it (`json_run_congr`), as they are
by default (`run_letterCase`).  The comparison itself does tell cases apart, and
exceptions whose domains are written otherwise than those of the rules they are about
come to nothing (`run_letterCase_exception`).
-/

namespace FilterCompiler

namespace Rule

/-- The rules that the host gets of a line. -/
def lineRules [DomainEncoder] (version : HostVersion) (line : String) : List Rule :=
  if isSkipped (Text.trim line.toList) then []
  else canonicalRules version (Canonical.ofChars (Text.trim line.toList))

theorem lowered_outcomes
    [DomainEncoder]
    (version : HostVersion)
    (line : String) :
    (((outcomes version line).filterMap Except.toOption).filter isBasic).map lowered =
      lineRules version line := by
  rw [outcomes, lineRules]
  split
  · rfl
  · rw [Canonical.lines, String.toList_ofList]
    cases Canonical.ofChars (Text.trim line.toList) with
    | error e => rfl
    | ok canonical =>
        simp only [Except.map]
        rw [List.filterMap_filterMap, List.filterMap_eq_flatMap_toList, List.filter_flatMap,
          List.map_flatMap, List.flatMap_map]
        rfl

theorem lineRules_congr
    [DomainEncoder]
    [DomainEncoder.IsCaseBlind]
    (version : HostVersion)
    {line line' : String}
    (h : SameLine (Text.trim line.toList) (Text.trim line'.toList)) :
    lineRules version line = lineRules version line' := by
  have hskipped : isSkipped (Text.trim line.toList) = isSkipped (Text.trim line'.toList) := by
    rw [← isSkipped_lower, h.sameButCase, isSkipped_lower]
  rw [lineRules, lineRules, hskipped, canonicalRules_ofChars_congr h]

end Rule

/-- **Lines that are the same but for the case of their domains make the same batch for the
host.** -/
theorem RuleBatch.lowered_ofLines_congr
    [DomainEncoder]
    [DomainEncoder.IsCaseBlind]
    (version : HostVersion)
    {lines lines' : List String}
    (h : List.Forall₂
      (fun line line' => SameLine (Text.trim line.toList) (Text.trim line'.toList)) lines lines') :
    ((ofLines version lines).rules.filter Rule.isBasic).map Rule.lowered =
      ((ofLines version lines').rules.filter Rule.isBasic).map Rule.lowered := by
  have hlines (lines : List String) :
      ((ofLines version lines).rules.filter Rule.isBasic).map Rule.lowered =
        lines.flatMap (Rule.lineRules version) := by
    rw [ofLines, ofOutcomes, List.filterMap_flatMap, List.filter_flatMap, List.map_flatMap]
    exact List.flatMap_congr fun line _ => Rule.lowered_outcomes version line
  rw [hlines, hlines]
  induction h with
  | nil => rfl
  | cons hline hrest ih =>
      rw [List.flatMap_cons, List.flatMap_cons, Rule.lineRules_congr version hline, ih]

namespace Conversion

/-- **The letter case of domains does not show in a ruleset where it agrees**, if domains
are encoded without a look at it. -/
theorem json_run_congr
    [DomainEncoder]
    [DomainEncoder.IsCaseBlind]
    (options : ConversionOptions)
    (polls : Polls)
    {lines lines' : List String}
    (hlines : List.Forall₂
      (fun line line' => SameLine (Text.trim line.toList) (Text.trim line'.toList)) lines lines')
    (h : IsCaseConsistent ((RuleBatch.ofLines options.version lines).rules.filter Rule.isBasic))
    (h' : IsCaseConsistent ((RuleBatch.ofLines options.version lines').rules.filter Rule.isBasic)) :
    (run options polls lines).conversion.json = (run options polls lines').conversion.json := by
  let basic (lines : List String) : List Rule :=
    (RuleBatch.ofLines options.version lines).rules.filter Rule.isBasic
  let ruleset (rules : List Rule) : Assembled :=
    Assembled.ofRules options.version (limits options)
      (Resolved.ofRules options.version rules).rules
  have hruleset : ruleset (basic lines) = ruleset (basic lines') :=
    calc
      ruleset (basic lines)
          = ruleset ((basic lines).map Rule.lowered) :=
        (Assembled.ofRules_lowered h options.version (limits options)).symm
      _ = ruleset ((basic lines').map Rule.lowered) :=
        congrArg ruleset (RuleBatch.lowered_ofLines_congr options.version hlines)
      _ = ruleset (basic lines') :=
        Assembled.ofRules_lowered h' options.version (limits options)
  have hbatch : (ofLines options lines).json = (ofLines options lines').json :=
    congrArg Assembled.json hruleset
  unfold run
  split
  · rfl
  · dsimp only
    split
    · rfl
    · exact hbatch

/-- **The letter case of domains does not show in a ruleset where it agrees.** -/
theorem run_letterCase
    (options : ConversionOptions)
    (polls : Polls)
    {lines lines' : List String}
    (hlines : List.Forall₂
      (fun line line' => SameLine (Text.trim line.toList) (Text.trim line'.toList)) lines lines')
    (h : IsCaseConsistent ((RuleBatch.ofLines options.version lines).rules.filter Rule.isBasic))
    (h' : IsCaseConsistent ((RuleBatch.ofLines options.version lines').rules.filter Rule.isBasic)) :
    (run options polls lines).conversion.json = (run options polls lines').conversion.json :=
  json_run_congr options polls hlines h h'

/-- Rules next to an exception and a badfilter rule whose domains are written as theirs,
and the same in small letters. -/
theorem run_letterCase_alike :
    let options : ConversionOptions := { version := .v16_4, advanced := true, maxJsonSize := none }
    let lines :=
      ["Example.com##.ad", "Example.com#@#.ad", "ads$domain=B.net", "ads$domain=B.net,badfilter"]
    let lines' :=
      ["example.com##.ad", "example.com#@#.ad", "ads$domain=b.net", "ads$domain=b.net,badfilter"]
    List.Forall₂
        (fun line line' => SameLine (Text.trim line.toList) (Text.trim line'.toList)) lines lines' ∧
      IsCaseConsistent
        ((RuleBatch.ofLines options.version lines).rules.filter Rule.isBasic) ∧
      IsCaseConsistent
        ((RuleBatch.ofLines options.version lines').rules.filter Rule.isBasic) ∧
      (run options (.always false) lines).conversion.json =
        (run options (.always false) lines').conversion.json := by
  intro options lines lines'
  have hlines : List.Forall₂
      (fun line line' => SameLine (Text.trim line.toList) (Text.trim line'.toList))
      lines lines' := by
    refine .cons ?_ (.cons ?_ (.cons ?_ (.cons ?_ .nil)))
    · exact @SameLine.cosmetic _ _ "Example.com".toList "example.com".toList ".ad".toList .hide
        (by decide +kernel) (by decide +kernel) (.list (by decide) (by decide)) (by decide)
    · exact @SameLine.cosmetic _ _ "Example.com".toList "example.com".toList ".ad".toList
        .hideException (by decide +kernel) (by decide +kernel) (.list (by decide) (by decide))
        (by decide)
    · exact @SameLine.network _ _ "ads".toList ("domain".toList ++ '=' :: "B.net".toList)
        ("domain".toList ++ '=' :: "b.net".toList) false (by decide +kernel) (by decide +kernel)
        (by decide +kernel) (.list (by decide) (by decide) (by decide) (by decide)) (by decide)
    · exact @SameLine.network _ _ "ads".toList
        (("domain".toList ++ '=' :: "B.net".toList) ++ ',' :: "badfilter".toList)
        (("domain".toList ++ '=' :: "b.net".toList) ++ ',' :: "badfilter".toList) false
        (by decide +kernel) (by decide +kernel) (by decide +kernel)
        (.append (.list (by decide) (by decide) (by decide) (by decide)) (by decide) (.same _))
        (by decide)
  have h : IsCaseConsistent
      ((RuleBatch.ofLines options.version lines).rules.filter Rule.isBasic) := by
    decide +kernel
  have h' : IsCaseConsistent
      ((RuleBatch.ofLines options.version lines').rules.filter Rule.isBasic) := by
    decide +kernel
  exact ⟨hlines, h, h', run_letterCase options (.always false) hlines h h'⟩

/-- An exception whose domain is written otherwise than that of the rule comes to
nothing. -/
theorem run_letterCase_exception :
    let options : ConversionOptions := { version := .v16_4, advanced := true, maxJsonSize := none }
    let lines := ["Example.com##.ad", "example.com#@#.ad"]
    let lines' := ["example.com##.ad", "example.com#@#.ad"]
    List.Forall₂
        (fun line line' => SameLine (Text.trim line.toList) (Text.trim line'.toList)) lines lines' ∧
      (run options (.always false) lines).conversion.json ≠
        (run options (.always false) lines').conversion.json := by
  intro options lines lines'
  refine ⟨.cons ?_ (.cons (.same _) .nil), ?_⟩
  · exact @SameLine.cosmetic _ _ "Example.com".toList "example.com".toList ".ad".toList .hide
      (by decide +kernel) (by decide +kernel) (.list (by decide) (by decide)) (by decide)
  · change (Assembled.ofRules _ _ (Resolved.ofRules _ _).rules).json ≠
      (Assembled.ofRules _ _ (Resolved.ofRules _ _).rules).json
    rw [Resolved.rules_ofRules, Resolved.rules_ofRules, Assembled.ofRules_eq_ofEntries,
      Assembled.ofRules_eq_ofEntries]
    decide +kernel

end Conversion
end FilterCompiler
