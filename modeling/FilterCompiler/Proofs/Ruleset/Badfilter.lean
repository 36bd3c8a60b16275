import FilterCompiler.Proofs.Rule.Negation
import FilterCompiler.Proofs.Rule.Parts
import FilterCompiler.Proofs.Ruleset.Resolution

/-!
# Badfilter as one more option

Badfilter written after the options of a line makes the badfilter rule that takes the rule
of the line out (`append_badfilter_removes`): the line is cut at the same place, its
options are read as before, and no check asks whether a rule is a badfilter rule.
-/

namespace FilterCompiler

/-! ## One more option -/

/-- A line with one more option is cut where it was. -/
theorem RuleParts.ofLine_append_option
    {line pattern options option : List Char}
    {isException : Bool}
    (h : ofLine line = { isException, pattern, options := some options })
    (hoptions : options ≠ [])
    (hoption : cutOptions? (some ',') option = none) :
    ofLine (line ++ ',' :: option) =
      { isException, pattern, options := some (options ++ ',' :: option) } := by
  obtain ⟨hsign, hlast, hslash, hcut⟩ := ofLine_eq_some_iff.mp h
  refine ofLine_eq_some_iff.mpr ⟨?_, hlast, ?_, cutOptions?_append_comma _ _ |>.mpr ⟨hcut, hoption⟩⟩
  · have hline := eq_append_of_cutException hsign
    rw [← List.append_assoc] at hline
    rw [hline, cutException_append_dollar, Prod.mk.injEq, List.append_cancel_right_eq] at hsign
    rw [hline, List.append_assoc, List.cons_append, cutException_append_dollar, hsign.1, hsign.2]
  · rwa [List.head?_append_of_ne_nil _ hoptions]

namespace NetworkRule

theorem optionTexts_append_comma
    {options : List Char}
    (hoptions : options ≠ [])
    (hlast : options.getLast? ≠ some '\\')
    (option : List Char) :
    optionTexts (some (options ++ ',' :: option)) =
      optionTexts (some options) ++ Text.splitEscaped ',' option := by
  obtain ⟨c, rest, rfl⟩ := List.exists_cons_of_ne_nil hoptions
  exact Text.splitEscaped_append_cons (by decide) hlast option

/-! ## The badfilter rule of a rule -/

/-- The rule with another text. -/
def withText (rule : NetworkRule) (text : String) : NetworkRule :=
  { rule with header := { rule.header with text } }

/-- The badfilter rule that says what the rule says. -/
def asBadfilter (rule : NetworkRule) (text : String) : NetworkRule :=
  { rule.withText text with isBadfilter := true }

/-- No option reads the text of a rule or sets it. -/
theorem apply_withText
    (m : Modifier)
    (rule : NetworkRule)
    (text : String) :
    m.apply (rule.withText text) = (m.apply rule).withText text := by
  cases m with
  | contentType t negated => cases negated <;> rfl
  | _ => rfl

theorem modify_concat_badfilter
    (rule : NetworkRule)
    (text : String)
    (ms : List Modifier) :
    (rule.withText text).modify (ms ++ [.badfilter]) = (rule.modify ms).asBadfilter text := by
  induction ms generalizing rule with
  | nil => rfl
  | cons m ms ih =>
      have hfirst := ih (m.apply rule)
      rw [← apply_withText] at hfirst
      exact hfirst

theorem narrowToDocuments_asBadfilter
    (rule : NetworkRule)
    (text : String) :
    (rule.asBadfilter text).narrowToDocuments = rule.narrowToDocuments.asBadfilter text := by
  rw [narrowToDocuments, narrowToDocuments, apply_ite (asBadfilter · text)]
  rfl

theorem withPattern_asBadfilter
    {rule rule' : NetworkRule}
    {pattern : String}
    (h : rule.withPattern pattern = .ok rule')
    (text : String) :
    (rule.asBadfilter text).withPattern pattern = .ok (rule'.asBadfilter text) := by
  rw [withPattern_congr h, eq_of_withPattern h]
  rfl

theorem validate_asBadfilter
    {version : HostVersion}
    {rule : NetworkRule}
    (h : rule.validate version = .ok rule)
    (text : String) :
    (rule.asBadfilter text).validate version = .ok (rule.asBadfilter text) :=
  validate_eq_ok_iff.mpr ⟨rfl, (validate_eq_ok_iff.mp h).2⟩

/-- A line with badfilter as one more option is read as the badfilter rule of its rule. -/
theorem parse_append_badfilter
    {version : HostVersion}
    {line : String}
    {rule : NetworkRule}
    {options : List Char}
    (h : parse version line = .ok rule)
    (hline : (RuleParts.ofLine line.toList).options = some options)
    (hoptions : options ≠ [])
    (hlast : options.getLast? ≠ some '\\') :
    parse version (line ++ ",badfilter") = .ok (rule.asBadfilter (line ++ ",badfilter")) := by
  obtain ⟨-, ms, hms, hpattern, hvalid⟩ := parse_eq_ok_iff.mp h
  generalize hparts : RuleParts.ofLine line.toList = parts at hline hms hpattern
  obtain ⟨isException, pattern, found⟩ := parts
  obtain rfl : found = some options := hline
  -- the sign and the pattern are those of the shorter line
  have hparts' : RuleParts.ofLine (line ++ ",badfilter").toList =
      { isException, pattern, options := some (options ++ ',' :: "badfilter".toList) } := by
    rw [String.toList_append]
    exact RuleParts.ofLine_append_option hparts hoptions (by decide)
  have hmodified : ofModified (line ++ ",badfilter") (ms ++ [.badfilter]) =
      (ofModified line ms).asBadfilter (line ++ ",badfilter") := by
    rw [ofModified, ofModified, hparts', hparts, ← narrowToDocuments_asBadfilter,
      ← modify_concat_badfilter]
    rfl
  refine parse_eq_ok_iff.mpr ⟨?_, ms ++ [.badfilter], ?_, ?_, validate_asBadfilter hvalid _⟩
  · exact fun h => by simpa using congrArg String.length h
  · rw [hparts', optionTexts_append_comma hoptions hlast]
    exact Modifier.parseAll_append hms rfl
  · rw [hmodified, hparts']
    exact withPattern_asBadfilter hpattern _

/-! ## What the badfilter rule does -/

theorem meets_self
    (domains : List String) :
    Meets domains domains := by
  cases domains <;> simp [Meets]

/-- The badfilter rule of a rule takes the rule out. -/
theorem negates_asBadfilter
    (rule : NetworkRule)
    (text : String) :
    (rule.asBadfilter text).negates rule :=
  (negates_iff _ _).mpr ⟨⟨rfl, rfl, rfl, rfl, rfl⟩, rfl, meets_self rule.header.scope.permitted⟩

end NetworkRule

/-- What a badfilter rule of the list negates is not left, wherever the two stand. -/
theorem Resolved.network_notMem_of_negates
    {rules : List Rule}
    {kill rule : NetworkRule}
    (hkill : .network kill ∈ rules)
    (hbadfilter : kill.isBadfilter)
    (hnegates : kill.negates rule)
    (version : HostVersion) :
    .network rule ∉ (ofRules version rules).rules := by
  rw [rules_ofRules, List.mem_append]
  rintro (hleft | hleft)
  · obtain ⟨-, plain, hplain, -, hkilled⟩ := mem_filterMap_leftNetwork?.mp hleft
    cases hplain
    refine List.any_eq_false.mp hkilled _ hkill ?_
    rw [Rule.kills, hbadfilter, hnegates, Bool.and_self]
  · obtain ⟨left, hleft, -⟩ := exists_of_mem_filterMap_leftCosmetic? hleft
    cases hleft

/-- **Badfilter as one more option of a line takes the rule of the line out.**  The longer line
is read on the same host, and its rule takes the rule of the line out of every list that has
both, for any host. -/
theorem NetworkRule.append_badfilter_removes
    {version : HostVersion}
    {line : String}
    {rule : NetworkRule}
    {options : List Char}
    (h : parse version line = .ok rule)
    (hline : (RuleParts.ofLine line.toList).options = some options)
    (hoptions : options ≠ [])
    (hlast : options.getLast? ≠ some '\\') :
    ∃ kill,
      parse version (line ++ ",badfilter") = .ok kill ∧ kill.isBadfilter ∧ kill.negates rule ∧
        ∀ version' (rules : List Rule), .network kill ∈ rules →
          .network rule ∉ (Resolved.ofRules version' rules).rules := by
  have hnegates := negates_asBadfilter rule (line ++ ",badfilter")
  exact ⟨_, parse_append_badfilter h hline hoptions hlast, rfl, hnegates, fun version' rules hkill =>
    Resolved.network_notMem_of_negates hkill rfl hnegates version'⟩

/-- A rule about third parties on a site, read on an old host. -/
theorem NetworkRule.append_badfilter_removes_party :
    let rule :=
      { blocking "||ads.example^$third-party,domain=a.com|~b.a.com" "||ads.example^"
          { permitted := ["a.com"], restricted := ["b.a.com"] } with
        party := some .third }
    parse .v13 rule.header.text = .ok rule ∧
      ∃ kill,
        parse .v13 (rule.header.text ++ ",badfilter") = .ok kill ∧
          kill.isBadfilter ∧ kill.negates rule ∧
          ∀ version' (rules : List Rule), .network kill ∈ rules →
            .network rule ∉ (Resolved.ofRules version' rules).rules := by
  intro rule
  have hrule : parse .v13 rule.header.text = .ok rule := by decide +kernel
  have hoptions : (RuleParts.ofLine rule.header.text.toList).options =
      some "third-party,domain=a.com|~b.a.com".toList := by
    decide +kernel
  exact ⟨hrule, append_badfilter_removes hrule hoptions (by decide +kernel) (by decide +kernel)⟩

end FilterCompiler
