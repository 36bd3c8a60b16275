import FilterCompiler.Conversion.Basic
import FilterCompiler.Proofs.Conversion.Acceptable
import FilterCompiler.Proofs.Conversion.Splitting
import FilterCompiler.Proofs.Pattern.Dialect
import FilterCompiler.Proofs.Rule.Network
import FilterCompiler.Proofs.Rule.Parts
import FilterCompiler.Proofs.Ruleset.Precedence
import FilterCompiler.Proofs.Ruleset.Resolution

/-!
# Exceptions that switch everything off

A line with the sign of an exception, a pattern that begins with `||`, and options that
come to `document` and a scope is read as one exception (`parse_documentException`), and
comes to nothing else (`outcomes_of_parse`).  A rule for the host alone gives a ruleset of
its entry (`run_singleton`), and among other rules it gives its entry unless a badfilter
rule takes it out (`mem_emitted_or_negated`).  The entry of a `document` exception is in
the last group, so nothing that blocks or hides comes after it
(`pairwise_ignorePrevious_of_documentException`).
-/

namespace FilterCompiler

/-! ## The line -/

/-- **A line with the sign of an exception in front is one network line.** -/
theorem Rule.outcomes_of_parse
    {version : HostVersion}
    {line : String}
    {rule : NetworkRule}
    (hlength : 3 ≤ Text.byteLength line.toList)
    (hhead : line.toList.head? = some '@')
    (hlast : ∀ c ∈ line.toList.getLast?, Text.isBlank c = false)
    (hdenyallow : Text.occurs Canonical.denyallowSign line.toList = false)
    (h : NetworkRule.parse version line = .ok rule) :
    outcomes version line = [.ok (.network rule)] := by
  have htrim : Text.trim line.toList = line.toList := by
    refine Text.trim_eq_self ?_ hlast
    rw [hhead]
    rintro c ⟨⟩
    decide
  have hskipped : isSkipped line.toList = false := by
    obtain ⟨s, hs⟩ := List.head?_eq_some_iff.mp hhead
    rw [hs]
    rfl
  have hmarker : Marker.find? line.toList = none := by
    rw [Marker.find?, Marker.isNetworkLine, hhead, if_pos (by simp)]
  have hcanonical : Canonical.lines line = .ok [line] := by
    rw [Canonical.lines, Canonical.ofChars, hmarker]
    dsimp only
    rw [Canonical.ofNetworkLine, if_pos (by simp [hdenyallow])]
    simp [Except.map]
  have hline : ofLine version line = .ok (some (.network rule)) := by
    rw [ofLine, hskipped, if_neg Bool.false_ne_true, if_neg (Nat.not_lt.mpr hlength), hmarker]
    simp only [h]
    rfl
  exact outcomes_of_ofLine htrim hcanonical hline

/-! ## The rule -/

theorem Modifier.parse_document
    (version : HostVersion) :
    parse version "document".toList = .ok (.page .document) := by
  rfl

namespace NetworkRule

/-- The exception that switches everything off on the pages that a pattern and a scope
tell. -/
def documentException (text pattern regex : String) (scope : DomainScope) : NetworkRule :=
  { header := { text, isException := true, isImportant := false, scope }
    pattern
    regex := some regex
    permitted := ContentType.document.only
    restricted := .none
    options := PageOption.document.only
    party := none
    matchCase := false
    isBadfilter := false }

/-- A pattern that begins with `||` and is in ASCII is set as it is. -/
theorem withPattern_of_hostAnchor
    (rule : NetworkRule)
    {pattern : String}
    (hlead : ['|', '|'] <+: pattern.toList)
    (hascii : ∀ c ∈ pattern.toList, Text.isAscii c)
    {regex : String}
    (hregex : Pattern.toRegex pattern = .ok regex) :
    rule.withPattern pattern = .ok { rule with pattern, regex := some regex } := by
  obtain ⟨rest, hrest⟩ := hlead
  have hliteral : Pattern.literalRegex? pattern = none := by
    rw [Pattern.literalRegex?, ← hrest]
    rfl
  have hne : pattern ≠ "" := by
    rintro rfl
    cases hrest
  rw [withPattern, hliteral]
  dsimp only
  rw [Pattern.encodeHost_of_isAscii hascii]
  dsimp only
  rw [if_neg hne, hregex]

/-- The modifiers `document` and a list of domains make a rule about documents. -/
theorem narrowToDocuments_document
    (line : String)
    (scope : DomainScope) :
    ((blank line true).modify [.page .document, .domains scope]).narrowToDocuments =
      { documentException line "" "" scope with regex := none } := by
  have hoptions : PageOptions.none ||| PageOption.document.only = PageOption.document.only := by
    decide
  have hlevel : PageOptions.hasAny PageOption.document.only documentLevel = true := by decide
  have htypes : ContentTypes.all ≠ ContentType.subdocument.only := by decide
  rw [narrowToDocuments]
  simp only [modify, List.foldl_cons, List.foldl_nil, Modifier.apply, blank, hoptions]
  rw [if_pos ⟨hlevel, htypes⟩]
  rfl

/-- **A `document` exception is read.** -/
theorem parse_documentException
    {version : HostVersion}
    {line pattern regex : String}
    {options : List Char}
    {ms : List Modifier}
    {scope : DomainScope}
    (hline : RuleParts.ofLine line.toList =
      { isException := true, pattern := pattern.toList, options := some options })
    (hlead : ['|', '|'] <+: pattern.toList)
    (hlength : 3 ≤ Text.byteLength pattern.toList)
    (hregex : Pattern.toRegex pattern = .ok regex)
    (hms : Modifier.parseAll version (optionTexts (some options)) = .ok ms)
    (hmodified : (blank line true).modify ms =
      (blank line true).modify [.page .document, .domains scope]) :
    parse version line = .ok (documentException line pattern regex scope) := by
  refine parse_eq_ok_iff.mpr ⟨?_, ms, ?_, ?_, ?_⟩
  · rintro rfl
    cases hline
  · rwa [hline]
  · rw [ofModified, hline, String.ofList_toList,
      withPattern_of_hostAnchor _ hlead (Pattern.isAscii_of_toRegex hregex) hregex, hmodified,
      narrowToDocuments_document]
    rfl
  · refine validate_eq_ok_iff.mpr ⟨rfl, ?_, ?_, rfl, ?_⟩
    · rw [isTooWide, documentException, decide_eq_false (Nat.not_lt.mpr hlength), Bool.false_and]
    · simp only [checkRegex, documentException, Pattern.check_of_toRegex hregex]
    · simp [lacksFrameScope, documentException]

/-! ## The entry -/

/-- The entry of a `document` exception. -/
def documentEntry (rule : NetworkRule) (version : HostVersion) : Entry :=
  { trigger := rule.pageTrigger version, action := .ofKind .ignorePrevious }

theorem toEntry_documentException
    (text pattern regex : String)
    (scope : DomainScope)
    (version : HostVersion) :
    (documentException text pattern regex scope).toEntry version =
      some
        { group := .documentException
          entry := (documentException text pattern regex scope).documentEntry version } := by
  have hpopup : PageOptions.has PageOption.document.only .popup = false := by decide
  have hpage : PageOptions.hasAny PageOption.document.only pageLevel = true := by decide
  have hdocument : PageOptions.has PageOption.document.only .document = true := by decide
  simp [toEntry, pageGroup, documentEntry, documentException, hpopup, hpage, hdocument]

theorem isBasic_documentException
    (text pattern regex : String)
    (scope : DomainScope) :
    (Rule.network (documentException text pattern regex scope)).isBasic := by
  have hshared : PageOptions.hasAny PageOption.document.only sharedOptions = true := by decide
  simp [Rule.isBasic, isExtendedOnly, isShared, documentException, hshared]

end NetworkRule

/-! ## One rule alone -/

theorem Resolved.rules_ofRules_singleton
    (version : HostVersion)
    {rule : NetworkRule}
    (h : rule.isBadfilter = false) :
    (ofRules version [.network rule]).rules = [.network rule] := by
  rw [rules_ofRules]
  simp [Rule.leftNetwork?, Rule.leftCosmetic?, Rule.kills, h]

namespace Conversion

/-- **The ruleset of a line that is one rule for the host** holds the entry of the rule, if
the entry fits. -/
theorem run_singleton
    {options : ConversionOptions}
    {line : String}
    {rule : NetworkRule}
    {grouped : GroupedEntry}
    (hline : Rule.outcomes options.version line = [.ok (.network rule)])
    (hbasic : (Rule.network rule).isBasic)
    (hplain : rule.isBadfilter = false)
    (hentry : rule.toEntry options.version = some grouped)
    (hsize : ∀ max ∈ options.maxJsonSize, (Ruleset.text [grouped.entry]).utf8ByteSize ≤ max) :
    let conversion := (run options (.always false) [line]).conversion
    conversion.errorsCount = 0 ∧ conversion.entriesCount = 1 ∧ conversion.discardedCount = 0 ∧
      Ruleset.parse? conversion.json = some [grouped.entry] := by
  have hbatch :
      RuleBatch.ofLines options.version [line] = { rules := [.network rule], errors := 0 } := by
    rw [RuleBatch.ofLines, List.flatMap_singleton, hline]
    rfl
  have hsorted :
      Assembled.sortedEntries options.version [.network rule] = [grouped.entry] := by
    have hgrouped : (Rule.network rule).toEntry options.version = some grouped := hentry
    simp [Assembled.sortedEntries, hgrouped]
  have hadmits : (limits options).Admits [grouped.entry] :=
    ⟨rulesLimit_pos options.version, hsize⟩
  have hassembled := Assembled.ofEntries_of_admits (List.cons_ne_nil _ _) hadmits
  have hrun : (run options (.always false) [line]).conversion =
      ofBatch options 1 { rules := [.network rule], errors := 0 } := by
    rw [← hbatch]
    rfl
  intro conversion
  simp only [conversion, hrun, ofBatch, splitRules, List.filter_singleton, hbasic, cond_true,
    Resolved.rules_ofRules_singleton options.version hplain, Assembled.ofRules, hsorted,
    hassembled, Ruleset.parse?_text, List.length_singleton, and_self]

end Conversion

/-! ## Among other rules -/

theorem EntryGroup.eq_documentException_of_rank_le
    {group : EntryGroup}
    (h : documentException.rank ≤ group.rank) :
    group = .documentException := by
  cases group <;> first | rfl | exact absurd h (by decide)

theorem EntryGroup.mem_inOrder
    (group : EntryGroup) :
    group ∈ inOrder := by
  cases group <;> decide

/-- The entries of the last group are about pages. -/
theorem Rule.kind_of_documentException
    {rule : Rule}
    {version : HostVersion}
    {grouped : GroupedEntry}
    (h : rule.toEntry version = some grouped)
    (hgroup : grouped.group = .documentException) :
    grouped.entry.action.kind = .ignorePrevious := by
  cases rule with
  | network rule =>
      simp only [toEntry, NetworkRule.toEntry] at h
      split at h
      · cases h
      split at h
      · cases h
        rfl
      split at h
      · cases h
      split at h
      · cases h
      · cases h
        simp only [NetworkRule.requestGroup] at hgroup
        split at hgroup <;> cases hgroup
  | cosmetic rule =>
      simp only [toEntry, CosmeticRule.toEntry, Option.ite_none_left_eq_some,
        Option.some.injEq] at h
      obtain ⟨-, rfl⟩ := h
      dsimp only at hgroup
      split at hgroup <;> cases hgroup

namespace Assembled

variable {version : HostVersion} {limits : Limits} {rules : List Rule}

theorem mem_emission
    {rule : Rule}
    {grouped : GroupedEntry}
    (hrule : rule ∈ rules)
    (h : rule.toEntry version = some grouped) :
    { rule, grouped } ∈ emission version rules := by
  refine List.mem_flatMap.mpr ⟨grouped.group, EntryGroup.mem_inOrder _, ?_⟩
  refine List.mem_filter.mpr ⟨List.mem_filterMap.mpr ⟨rule, hrule, ?_⟩, decide_eq_true rfl⟩
  rw [SourcedEntry.ofRule?, h]
  rfl

/-- If nothing is discarded all entries are emitted. -/
theorem emitted_eq_emission
    (h : (ofRules version limits rules).discardedCount = 0) :
    emitted version limits rules = emission version rules := by
  obtain ⟨k, -, hassembled, -⟩ :=
    ofEntries_eq limits ((emission version rules).map SourcedEntry.entry)
  rw [ofRules_eq_emission, hassembled, List.length_map] at h
  rw [emitted, ofRules_eq_emission, hassembled]
  exact List.take_of_length_le (Nat.sub_eq_zero_iff_le.mp h)

/-- **Nothing but exceptions comes after one that switches everything off.** -/
theorem pairwise_ignorePrevious_of_documentException
    (version : HostVersion)
    (limits : Limits)
    (rules : List Rule) :
    (emitted version limits rules).Pairwise fun earlier later =>
      earlier.grouped.group = .documentException →
        later.entry.action.kind = .ignorePrevious := by
  have hsorted := (pairwise_emission version rules).sublist
    (List.take_sublist (ofRules version limits rules).entriesCount _)
  refine hsorted.imp_of_mem fun {earlier later} _ hlater hrank hgroup => ?_
  rw [hgroup] at hrank
  exact Rule.kind_of_documentException (toEntry_of_mem_emission (List.mem_of_mem_take hlater))
    (EntryGroup.eq_documentException_of_rank_le hrank)

end Assembled

/-! ## Conversions -/

namespace Conversion

/-- The entries that the ruleset of some lines holds, with their rules. -/
def emitted (options : ConversionOptions) (lines : List String) : List SourcedEntry :=
  let basic := (splitRules (RuleBatch.ofLines options.version lines).rules).1
  Assembled.emitted options.version (limits options)
    (Resolved.ofRules options.version basic).rules

variable {options : ConversionOptions} {lines : List String}

/-- The text of a ruleset is that of the emitted entries. -/
theorem json_run
    (options : ConversionOptions)
    (lines : List String) :
    let conversion := (run options (.always false) lines).conversion
    conversion.json =
      if conversion.entriesCount = 0 then neutralRuleset
      else Ruleset.text ((emitted options lines).map SourcedEntry.entry) :=
  Assembled.json_ofRules _ _ _

/-- **If nothing is discarded the entry of a rule is emitted**, unless a badfilter rule
takes the rule out. -/
theorem mem_emitted_or_negated
    {rule : NetworkRule}
    {grouped : GroupedEntry}
    (hrule : .network rule ∈ (RuleBatch.ofLines options.version lines).rules)
    (hbasic : (Rule.network rule).isBasic)
    (hplain : rule.isBadfilter = false)
    (hentry : rule.toEntry options.version = some grouped)
    (h : (run options (.always false) lines).conversion.discardedCount = 0) :
    { rule := .network rule, grouped } ∈ emitted options lines ∨
      ∃ kill, .network kill ∈ (RuleBatch.ofLines options.version lines).rules ∧
        kill.isBadfilter ∧ kill.negates rule := by
  let basic := (splitRules (RuleBatch.ofLines options.version lines).rules).1
  have hsource : .network rule ∈ basic := mem_splitRules_fst.mpr ⟨hrule, hbasic⟩
  cases hkilled : basic.any (·.kills rule) with
  | false =>
      refine .inl ?_
      have hleft : .network rule ∈ (Resolved.ofRules options.version basic).rules := by
        rw [Resolved.rules_ofRules]
        refine List.mem_append_left _ (Resolved.mem_filterMap_leftNetwork?.mpr ?_)
        exact ⟨hsource, rule, rfl, hplain, hkilled⟩
      have hall : emitted options lines = _ := Assembled.emitted_eq_emission h
      rw [hall]
      exact Assembled.mem_emission hleft hentry
  | true =>
      refine .inr ?_
      obtain ⟨other, hother, hkills⟩ := List.any_eq_true.mp hkilled
      cases other with
      | network kill =>
          exact ⟨kill, (mem_splitRules_fst.mp hother).1, Bool.and_eq_true_iff.mp hkills⟩
      | cosmetic other => cases hkills

end Conversion
end FilterCompiler
