import FilterCompiler.Conversion.Basic
import FilterCompiler.Proofs.Ruleset.Acceptable
import FilterCompiler.Proofs.Ruleset.Assemble
import FilterCompiler.Proofs.Ruleset.Resolve

/-!
# The host takes every ruleset

Rules that are read are well formed, stay so while exceptions are resolved, and
give acceptable entries; the text of the entries that fit reads back as these
entries.  All that matters of the encoder of domains is that it writes ASCII.
A ruleset without entries is the neutral one, whose only domain has no star in
front.  The main result is `run_isAcceptable`.
-/

namespace FilterCompiler

/-! ## Checked rulesets -/

namespace Ruleset

theorem filterProblems_eq_nil
    {entries : List Entry}
    (h : ∀ entry ∈ entries, Regex.check entry.trigger.urlFilter = .ok ()) :
    filterProblems entries = [] := by
  rw [filterProblems, List.filterMap_eq_nil_iff]
  rintro ⟨entry, index⟩ hentry
  have hcheck := h entry (List.fst_mem_of_mem_zipIdx hentry)
  simp [filterProblem?, hcheck]

theorem problems_eq_nil
    {version : HostVersion}
    {entries : List Entry}
    (hlength : entries.length ≤ version.rulesLimit)
    (h : ∀ entry ∈ entries, Regex.check entry.trigger.urlFilter = .ok ()) :
    problems version entries = [] := by
  rw [problems, if_neg (by omega), filterProblems_eq_nil h]
  rfl

/-- The host of a version takes the ruleset `json`, which holds these entries
and of which `count` are counted; the neutral ruleset counts none. -/
structure IsAcceptable (version : HostVersion) (maxSize : Option Nat) (json : String)
    (count : Nat) (entries : List Entry) : Prop where
  parse : parse? json = some entries
  nonempty : entries ≠ []
  problems : problems version entries = []
  length : 0 < count → entries.length = count
  neutral : count = 0 → json = neutralRuleset
  size : 0 < count → ∀ max ∈ maxSize, json.utf8ByteSize ≤ max
  triggers : ∀ entry ∈ entries, entry.trigger.IsAcceptable version
  domains : ∀ entry ∈ entries, ∀ item ∈ entry.trigger.domainItems,
    IsDomainItem item ∨ count = 0 ∧ item = "domain.com"

end Ruleset

/-! ## The neutral ruleset -/

/-- The entry of the neutral ruleset. -/
def neutralEntry : Entry :=
  { trigger := { Trigger.ofFilter Pattern.matchAll with ifDomain := some ["domain.com"] }
    action := .ofKind .ignorePrevious }

example : neutralRuleset =
    "[\x7b\"trigger\":\x7b\"url-filter\":\".*\",\"if-domain\":[\"domain.com\"]\x7d," ++
      "\"action\":\x7b\"type\":\"ignore-previous-rules\"\x7d\x7d]" := by
  decide

theorem parse?_neutralRuleset :
    Ruleset.parse? neutralRuleset = some [neutralEntry] := by
  exact Ruleset.parse?_text [neutralEntry]

theorem rulesLimit_pos
    (version : HostVersion) :
    0 < version.rulesLimit := by
  unfold HostVersion.rulesLimit
  split <;> decide

theorem isAcceptable_neutralRuleset
    (version : HostVersion)
    (maxSize : Option Nat) :
    Ruleset.IsAcceptable version maxSize neutralRuleset 0 [neutralEntry] where
  parse := parse?_neutralRuleset
  nonempty := List.cons_ne_nil _ _
  problems := by
    apply Ruleset.problems_eq_nil
    · exact rulesLimit_pos version
    · exact List.forall_mem_singleton.mpr Pattern.check_matchAll
  length := by intro h; cases h
  neutral := fun _ => rfl
  size := by intro h; cases h
  triggers := by
    rw [List.forall_mem_singleton]
    constructor
    · exact Pattern.check_matchAll
    all_goals simp [neutralEntry, Trigger.ofFilter]
  domains := by
    simp [neutralEntry, Trigger.ofFilter, Trigger.domainItems]

/-! ## Assembled rulesets -/

/-- **Acceptable entries are assembled into an acceptable ruleset.** -/
theorem Assembled.isAcceptable_ofEntries
    {version : HostVersion}
    (limits : Limits)
    {entries : List Entry}
    (hlimit : limits.entries ≤ version.rulesLimit)
    (h : ∀ entry ∈ entries, entry.trigger.IsAcceptable version ∧
      ∀ item ∈ entry.trigger.domainItems, IsDomainItem item) :
    ∃ kept,
      Ruleset.IsAcceptable version limits.bytes (ofEntries limits entries).json
        (ofEntries limits entries).entriesCount kept := by
  obtain ⟨k, hk, hassembled, hadmits, -⟩ := ofEntries_eq limits entries
  rw [hassembled]
  by_cases hzero : k = 0
  · subst hzero
    exact ⟨[neutralEntry], isAcceptable_neutralRuleset version limits.bytes⟩
  have hpos : 0 < k := Nat.pos_of_ne_zero hzero
  obtain ⟨hcount, hsize⟩ := hadmits hpos
  have hlength : (entries.take k).length = k := by simpa using hk
  have hkept : ∀ entry ∈ entries.take k, entry.trigger.IsAcceptable version ∧
      ∀ item ∈ entry.trigger.domainItems, IsDomainItem item := by
    intro entry hentry
    exact h entry (List.mem_of_mem_take hentry)
  refine ⟨entries.take k, ?_⟩
  simp only [if_neg hzero]
  constructor
  · exact Ruleset.parse?_text _
  · exact List.ne_nil_of_length_pos (by omega)
  · exact Ruleset.problems_eq_nil (by omega) fun entry hentry => (hkept entry hentry).1.filter
  · exact fun _ => hlength
  · exact fun hcount => absurd hcount hzero
  · exact fun _ => hsize
  · exact fun entry hentry => (hkept entry hentry).1
  · exact fun entry hentry item hitem => .inl ((hkept entry hentry).2 item hitem)

/-! ## Conversions -/

namespace Conversion

/-- Well-formed rules are converted into an acceptable ruleset. -/
theorem isAcceptable_ofBatch
    (options : ConversionOptions)
    (linesCount : Nat)
    {batch : RuleBatch}
    (h : ∀ rule ∈ batch.rules, rule.WellFormed) :
    ∃ entries,
      Ruleset.IsAcceptable options.version options.maxJsonSize
        (ofBatch options linesCount batch).json
        (ofBatch options linesCount batch).entriesCount entries := by
  apply Assembled.isAcceptable_ofEntries (limits options) (Nat.le_refl _)
  intro entry hentry
  obtain ⟨rule, hrule, grouped, hgrouped, rfl⟩ := Assembled.mem_sortedEntries.mp hentry
  refine Rule.WellFormed.isAcceptable (Resolved.wellFormed_ofRules options.version ?_ rule hrule)
    hgrouped
  intro basic hbasic
  exact h basic (List.mem_filter.mp hbasic).1

/-- **The host takes every ruleset that a conversion hands out**, if domains are encoded
in ASCII. -/
theorem exists_isAcceptable_run
    [DomainEncoder]
    [DomainEncoder.IsAscii]
    (options : ConversionOptions)
    (polls : Polls)
    (lines : List String) :
    ∃ entries,
      Ruleset.IsAcceptable options.version options.maxJsonSize
        (run options polls lines).conversion.json
        (run options polls lines).conversion.entriesCount entries := by
  have hempty := isAcceptable_neutralRuleset options.version options.maxJsonSize
  unfold run
  split
  · exact ⟨_, hempty⟩
  simp only
  split
  · exact ⟨_, hempty⟩
  · exact isAcceptable_ofBatch options lines.length
      (RuleBatch.wellFormed_ofLines options.version lines)

/-- **The host takes every ruleset that a conversion hands out**, whatever the
lines are and whenever the conversion is cancelled. -/
theorem run_isAcceptable
    (options : ConversionOptions)
    (polls : Polls)
    (lines : List String) :
    ∃ entries,
      Ruleset.IsAcceptable options.version options.maxJsonSize
        (run options polls lines).conversion.json
        (run options polls lines).conversion.entriesCount entries :=
  exists_isAcceptable_run options polls lines

theorem json_run_nil
    (options : ConversionOptions) :
    (run options (.always false) []).conversion.json = neutralRuleset := by
  simp [run, Polls.always, RuleBatch.ofLines, RuleBatch.ofOutcomes, ofBatch,
    splitRules, Resolved.ofRules, Assembled.ofRules, Assembled.sortedEntries,
    Assembled.ofEntries, Assembled.fill]

/-- The domain of the neutral ruleset has no star in front. -/
theorem not_isDomainItem_run_nil :
    ¬ ∃ entries,
      Ruleset.parse?
          (run { version := .v13, advanced := false, maxJsonSize := none }
            (.always false) []).conversion.json = some entries ∧
      ∀ entry ∈ entries, ∀ item ∈ entry.trigger.domainItems, IsDomainItem item := by
  rintro ⟨entries, hparse, hitems⟩
  rw [json_run_nil, parse?_neutralRuleset] at hparse
  cases hparse
  obtain ⟨name, hname, -⟩ :=
    hitems neutralEntry (List.mem_singleton_self _) "domain.com" (by decide)
  simp at hname

end Conversion
end FilterCompiler
