import FilterCompiler.Proofs.Rule.Network
import Mathlib.Data.List.Perm.Basic
import Mathlib.Tactic.Tauto

/-!
# What a badfilter rule takes out

A badfilter rule takes out the rules that have its pattern, its content types, its options
and its restricted domains, and share a permitted domain with it (`negates_iff`).  For
rules that are read this settles the regex too.  The importance, the party and the letter
case of a rule are not compared (`negates_iff_of_parse`, `negates_otherwise`).

The permitted domains are compared as a set.  The restricted ones are compared as they are
written, so their order matters (`negates_reordered_iff`, `not_negates_reordered`).
-/

namespace FilterCompiler
namespace NetworkRule

/-! ## What is compared -/

/-- The rules agree in what a badfilter rule is compared by, their domains apart. -/
structure Agrees (kill target : NetworkRule) : Prop where
  isException : kill.header.isException = target.header.isException
  pattern : kill.pattern = target.pattern
  permitted : kill.permitted = target.permitted
  restricted : kill.restricted = target.restricted
  options : kill.options = target.options

/-- The lists of permitted domains are both empty or share a domain. -/
def Meets (first second : List String) : Prop :=
  first = [] ∧ second = [] ∨ ∃ domain ∈ first, domain ∈ second

theorem sharesDomain_iff
    (first second : List String) :
    sharesDomain first second ↔ Meets first second := by
  simp [sharesDomain, Meets]

theorem negates_iff
    (kill target : NetworkRule) :
    kill.negates target ↔
      kill.Agrees target ∧
        kill.header.scope.restricted = target.header.scope.restricted ∧
        Meets kill.header.scope.permitted target.header.scope.permitted := by
  simp only [negates, Bool.and_eq_true, beq_iff_eq, sharesDomain_iff]
  constructor
  · rintro ⟨⟨⟨⟨⟨⟨hexception, hpattern⟩, hpermitted⟩, hrestricted⟩, hoptions⟩, hdomains⟩, hmeets⟩
    exact ⟨⟨hexception, hpattern, hpermitted, hrestricted, hoptions⟩, hdomains, hmeets⟩
  · rintro ⟨h, hdomains, hmeets⟩
    exact ⟨⟨⟨⟨⟨⟨h.isException, h.pattern⟩, h.permitted⟩, h.restricted⟩, h.options⟩, hdomains⟩,
      hmeets⟩

/-! ## Rules that are read -/

/-- **A badfilter rule takes out a rule if they agree in exception, pattern, regex, content
types, options and restricted domains and share a permitted domain.**  Nothing else is asked
of the two rules: their importance, party and letter case may differ. -/
theorem negates_iff_of_parse
    {version version' : HostVersion}
    {line line' : String}
    {kill target : NetworkRule}
    (hkill : parse version line = .ok kill)
    (htarget : parse version' line' = .ok target) :
    kill.negates target ↔
      kill.Agrees target ∧ kill.regex = target.regex ∧
        kill.header.scope.restricted = target.header.scope.restricted ∧
        Meets kill.header.scope.permitted target.header.scope.permitted := by
  rw [negates_iff]
  refine and_congr_right fun h => (and_iff_right ?_).symm
  rw [regex_eq_of_parse hkill, regex_eq_of_parse htarget, h.pattern]

/-- The blocking rule of a line that says a pattern and domains only. -/
def blocking (text pattern : String) (scope : DomainScope) : NetworkRule :=
  { blank text false with
    header := { text, isException := false, isImportant := false, scope }
    pattern
    regex := Pattern.regex? pattern }

/-- The domains of a badfilter rule and of its target need not be the same. -/
theorem negates_iff_of_parse_domains :
    let kill :=
      { blocking "||ads.example^$script,domain=b.com|~c.com,badfilter" "||ads.example^"
          { permitted := ["b.com"], restricted := ["c.com"] } with
        permitted := ContentType.script.only
        isBadfilter := true }
    let target :=
      { blocking "||ads.example^$domain=a.com|~c.com|b.com,script" "||ads.example^"
          { permitted := ["a.com", "b.com"], restricted := ["c.com"] } with
        permitted := ContentType.script.only }
    parse .v16_4 kill.header.text = .ok kill ∧ parse .v15 target.header.text = .ok target ∧
      (kill.negates target ↔
        kill.Agrees target ∧ kill.regex = target.regex ∧
          kill.header.scope.restricted = target.header.scope.restricted ∧
          Meets kill.header.scope.permitted target.header.scope.permitted) := by
  intro kill target
  have hkill : parse .v16_4 kill.header.text = .ok kill := by decide +kernel
  have htarget : parse .v15 target.header.text = .ok target := by decide +kernel
  exact ⟨hkill, htarget, negates_iff_of_parse hkill htarget⟩

/-- A badfilter rule takes out a rule that is important, asks for a party and for letter
case, none of which it does itself. -/
theorem negates_otherwise :
    let kill :=
      { blocking "||ads.example^$badfilter" "||ads.example^" .everywhere with isBadfilter := true }
    let target :=
      { blocking "||ads.example^$important,third-party,match-case" "||ads.example^"
          .everywhere with
        header :=
          { text := "||ads.example^$important,third-party,match-case"
            isException := false
            isImportant := true
            scope := .everywhere }
        party := some .third
        matchCase := true }
    parse .v16_4 kill.header.text = .ok kill ∧ parse .v16_4 target.header.text = .ok target ∧
      kill.negates target ∧
      kill.header.isImportant ≠ target.header.isImportant ∧
      kill.party ≠ target.party ∧ kill.matchCase ≠ target.matchCase := by
  decide +kernel

/-! ## The order of domains -/

/-- The rules are the same but for their texts and the order of their domains. -/
structure IsReordered (rule rule' : NetworkRule) : Prop where
  permitted : rule'.header.scope.permitted.Perm rule.header.scope.permitted
  restricted : rule'.header.scope.restricted.Perm rule.header.scope.restricted
  otherwise :
    rule' = { rule with header :=
      { rule.header with text := rule'.header.text, scope := rule'.header.scope } }

variable {kill kill' target target' : NetworkRule}

theorem meets_perm
    {first first' second second' : List String}
    (hfirst : first'.Perm first)
    (hsecond : second'.Perm second) :
    Meets first' second' ↔ Meets first second := by
  simp only [Meets, hfirst.mem_iff, hsecond.mem_iff, ← List.length_eq_zero_iff, hfirst.length_eq,
    hsecond.length_eq]

theorem IsReordered.agrees_iff
    (hkill : kill.IsReordered kill')
    (htarget : target.IsReordered target') :
    kill'.Agrees target' ↔ kill.Agrees target := by
  rw [hkill.otherwise, htarget.otherwise]
  exact ⟨fun h => ⟨h.1, h.2, h.3, h.4, h.5⟩, fun h => ⟨h.1, h.2, h.3, h.4, h.5⟩⟩

/-- **The order of permitted domains never matters, and that of restricted domains only if
it makes the lists of otherwise agreeing rules equal or different.** -/
theorem negates_reordered_iff
    (hkill : kill.IsReordered kill')
    (htarget : target.IsReordered target') :
    kill'.negates target' = kill.negates target ↔
      (kill.Agrees target →
        Meets kill.header.scope.permitted target.header.scope.permitted →
        (kill'.header.scope.restricted = target'.header.scope.restricted ↔
          kill.header.scope.restricted = target.header.scope.restricted)) := by
  rw [Bool.eq_iff_iff, negates_iff, negates_iff, hkill.agrees_iff htarget,
    meets_perm hkill.permitted htarget.permitted]
  tauto

/-- Both lists of both rules in another order. -/
theorem negates_reordered_alike :
    let scope : DomainScope := { permitted := ["a.com", "b.com"], restricted := ["c.com", "d.com"] }
    let scope' : DomainScope := { permitted := ["b.com", "a.com"], restricted := ["d.com", "c.com"] }
    let rule := blocking "||ads.example^$domain=a.com|b.com|~c.com|~d.com" "||ads.example^" scope
    let rule' := blocking "||ads.example^$domain=b.com|a.com|~d.com|~c.com" "||ads.example^" scope'
    rule.IsReordered rule' ∧ rule'.negates rule' = rule.negates rule := by
  intro scope scope' rule rule'
  have hrule : rule.IsReordered rule' :=
    ⟨.swap "a.com" "b.com" [], .swap "c.com" "d.com" [], rfl⟩
  exact ⟨hrule, (negates_reordered_iff hrule hrule).mpr fun _ _ => iff_of_true rfl rfl⟩

/-- Restricted domains in another order make another rule of a target. -/
theorem not_negates_reordered :
    let kill :=
      { blocking "||ads.example^$domain=~a.com|~b.com,badfilter" "||ads.example^"
          { permitted := [], restricted := ["a.com", "b.com"] } with
        isBadfilter := true }
    let target :=
      blocking "||ads.example^$domain=~a.com|~b.com" "||ads.example^"
        { permitted := [], restricted := ["a.com", "b.com"] }
    let target' :=
      blocking "||ads.example^$domain=~b.com|~a.com" "||ads.example^"
        { permitted := [], restricted := ["b.com", "a.com"] }
    parse .v16_4 kill.header.text = .ok kill ∧ parse .v16_4 target.header.text = .ok target ∧
      parse .v16_4 target'.header.text = .ok target' ∧ target.IsReordered target' ∧
      kill.negates target ∧ ¬ kill.negates target' := by
  intro kill target target'
  have hreordered : target.IsReordered target' := ⟨.nil, .swap "a.com" "b.com" [], rfl⟩
  exact ⟨by decide +kernel, by decide +kernel, by decide +kernel, hreordered, by decide +kernel,
    by decide +kernel⟩

end NetworkRule
end FilterCompiler
