import FilterCompiler.Domain
import FilterCompiler.Proofs.Rule.Outcomes

/-!
# What a style may load

A style must not make a page load anything.  Every way to a style rule, also from
a line in another dialect, ends in a check that refuses a content with `url(` in
it.  The check looks for small letters only, whereas to a browser the name of a
function is the same in capital letters.

The main result is `RuleBatch.content_of_style`: no style rule of a batch has
`url(` in its content, and every content without it is the content of a style
rule.
-/

namespace FilterCompiler

namespace CosmeticRule

variable {version : HostVersion} {line : String} {rule : CosmeticRule}

/-- **A style rule that is read does not hold the function that loads.** -/
theorem not_isInfix_of_ofLine
    (h : Rule.ofLine version line = .ok (some (.cosmetic rule)))
    (hkind : rule.kind = .style) :
    ¬ loadFunction <:+: rule.content.toList := by
  unfold Rule.ofLine at h
  split at h
  · cases h
  split at h
  · cases h
  split at h
  · next cut _ =>
      cases hcut : ofCut version line cut with
      | error e =>
          rw [hcut] at h
          cases h
      | ok rule' =>
          rw [hcut] at h
          cases h
          obtain ⟨-, kind, isScriptlet, scope, -, -, -, hvalid⟩ := ofCut_eq_ok_iff.mp hcut
          obtain ⟨hload, -, hrule⟩ := validate_eq_ok_iff.mp hvalid
          rw [← hrule] at hload
          exact hload hkind
  · cases hparse : NetworkRule.parse version line with
    | error e =>
        rw [hparse] at h
        cases h
    | ok rule' =>
        rw [hparse] at h
        cases h

end CosmeticRule

/-! ## A style behind the extended marker -/

namespace Rule

variable {content : List Char}

/-- The line of a style on all domains, for the extended selector engine. -/
def styleLine (content : List Char) : List Char :=
  Marker.styleExtended.text.toList ++ content

theorem find?_styleLine
    (content : List Char) :
    Marker.find? (styleLine content) =
      some { domains := [], marker := .styleExtended, content } := by
  have hnetwork : Marker.isNetworkLine (styleLine content) = false := by
    simp [styleLine, Marker.text, Marker.isNetworkLine, Text.byteLength, Char.utf8Size]
    omega
  rw [Marker.find?, hnetwork, if_neg Bool.false_ne_true]
  rfl

theorem ofLine_styleLine
    (version : HostVersion)
    (hcontent : content ≠ [])
    (hload : ¬ CosmeticRule.loadFunction <:+: content) :
    ∃ rule,
      ofLine version (String.ofList (styleLine content)) = .ok (some (.cosmetic rule)) ∧
      rule.kind = .style ∧
      rule.content = String.ofList content := by
  have hskipped : isSkipped (styleLine content) = false := rfl
  have hlength : ¬ Text.byteLength (styleLine content) < 3 := by
    simp [styleLine, Marker.text, Text.byteLength, Char.utf8Size]
    omega
  obtain ⟨rule, hkind, hrule, hread⟩ :
      ∃ rule : CosmeticRule, rule.kind = .style ∧ rule.content = String.ofList content ∧
        CosmeticRule.ofCut version (String.ofList (styleLine content))
          { domains := [], marker := .styleExtended, content } = .ok rule := by
    refine ⟨_, ?_, ?_, CosmeticRule.ofCut_eq_ok_iff.mpr ⟨hcontent, .style, false, .everywhere,
      rfl, rfl, rfl, CosmeticRule.validate_eq_ok_iff.mpr ⟨fun _ => ?_, fun _ => rfl, rfl⟩⟩⟩
    · rfl
    · rfl
    · rwa [String.toList_ofList]
  refine ⟨rule, ?_, hkind, hrule⟩
  rw [ofLine, String.toList_ofList, hskipped, if_neg Bool.false_ne_true, if_neg hlength,
    find?_styleLine]
  simp only [hread]
  rfl

theorem outcomes_styleLine
    {version : HostVersion}
    {rule : Rule}
    (hlast : ∀ c ∈ content.getLast?, Text.isBlank c = false)
    (h : ofLine version (String.ofList (styleLine content)) = .ok (some rule)) :
    outcomes version (String.ofList (styleLine content)) = [.ok rule] := by
  refine outcomes_of_ofLine (Text.trim_eq_self ?_ ?_) ?_ h
  · simp [styleLine, Marker.text]
    decide
  · rw [String.toList_ofList, styleLine, List.getLast?_append]
    cases hc : content.getLast? with
    | none =>
        rintro c ⟨⟩
        rfl
    | some c => simpa [hc] using hlast
  · rw [Canonical.lines, String.toList_ofList, Canonical.ofChars, find?_styleLine]
    rfl

end Rule

namespace RuleBatch

/-- **No style rule of a batch has `url(` in its content, and every content without it
is the content of a style rule.**  The letter case counts: `URL(` passes. -/
theorem content_of_style
    (version : HostVersion) :
    (∀ lines rule,
      .cosmetic rule ∈ (ofLines version lines).rules →
      rule.kind = .style →
      ¬ "url(".toList <:+: rule.content.toList) ∧
    (∀ content : List Char,
      content ≠ [] →
      (∀ c ∈ content.getLast?, Text.isBlank c = false) →
      ¬ "url(".toList <:+: content →
      ∃ rule,
        (ofLines version ["#$?#" ++ String.ofList content]).rules = [.cosmetic rule] ∧
        rule.kind = .style ∧
        rule.content = String.ofList content) := by
  constructor
  · intro lines rule hrule hkind
    obtain ⟨line, hline⟩ := exists_ofLine_of_mem hrule
    exact CosmeticRule.not_isInfix_of_ofLine hline hkind
  · intro content hcontent hlast hload
    obtain ⟨rule, hline, hkind, hrule⟩ := Rule.ofLine_styleLine version hcontent hload
    refine ⟨rule, ?_, hkind, hrule⟩
    have hlines : "#$?#" ++ String.ofList content = String.ofList (Rule.styleLine content) := by
      rw [Rule.styleLine, String.ofList_append]
      rfl
    rw [hlines, ofLines, List.flatMap_singleton, Rule.outcomes_styleLine hlast hline]
    rfl

theorem content_of_style_capitals :
    ∃ rule,
      .cosmetic rule ∈ (ofLines .v16_4 ["#$?#a \x7b b: URL(c) \x7d"]).rules ∧
      rule.kind = .style ∧
      rule.content = "a \x7b b: URL(c) \x7d" ∧
      ¬ "url(".toList <:+: rule.content.toList := by
  have hend : "a \x7b b: URL(c) \x7d".toList.getLast? = some '\x7d' := by decide +kernel
  have hlast : ∀ c ∈ "a \x7b b: URL(c) \x7d".toList.getLast?, Text.isBlank c = false := by
    rw [hend]
    rintro c ⟨⟩
    rfl
  obtain ⟨hrefused, haccepted⟩ := content_of_style .v16_4
  obtain ⟨rule, hrules, hkind, hcontent⟩ := haccepted "a \x7b b: URL(c) \x7d".toList
    (by decide +kernel) hlast (by decide +kernel)
  have hrule : .cosmetic rule ∈ (ofLines .v16_4 ["#$?#a \x7b b: URL(c) \x7d"]).rules := by
    rw [String.ofList_toList] at hrules
    exact hrules ▸ List.mem_singleton_self _
  rw [String.ofList_toList] at hcontent
  exact ⟨rule, hrule, hkind, hcontent, hrefused _ rule hrule hkind⟩

/-- A style in capital letters gets through: it makes the page load something. -/
theorem content_of_style_url :
    ∃ rule,
      .cosmetic rule ∈ (ofLines .v16_4 ["example.com#$#body \x7b background: URL(x) \x7d"]).rules ∧
      rule.kind = .style ∧
      "url(".toList <:+: (Domain.lower rule.content).toList := by
  have hrules :
      (ofLines .v16_4 ["example.com#$#body \x7b background: URL(x) \x7d"]).rules =
        [.cosmetic
          { header :=
              { text := "example.com#$#body \x7b background: URL(x) \x7d"
                isException := false
                isImportant := false
                scope := { permitted := ["example.com"], restricted := [] } }
            content := "body \x7b background: URL(x) \x7d"
            kind := .style
            isExtended := false
            isScriptlet := false
            path := none }] := by
    decide +kernel
  refine ⟨_, hrules ▸ List.mem_singleton_self _, rfl, ?_⟩
  decide +kernel

end RuleBatch
end FilterCompiler
