import FilterCompiler.Proofs.Ruleset.LongestPrefix
import FilterCompiler.Rule.Batch

/-!
# Exceptions that lift blocking

The host lets a later entry override an earlier one, so an exception that lifts
blocking has to come after the entries that block.  Entries are told by the rules
they come from (`emission`), and their order is that of the groups.  An exception
about requests comes late enough, and so does one that switches everything off on a
page.  An exception that switches off blocking on a page does so only if it switches
off no hiding as well, and it never comes after an important rule
(`ofRules_precedence`, `urlblock_comes_early`).
-/

namespace FilterCompiler

/-! ## Entries and their rules -/

/-- An entry with its group and the rule from which it was made. -/
structure SourcedEntry where
  rule : Rule
  grouped : GroupedEntry
deriving DecidableEq

namespace SourcedEntry

/-- The entry itself. -/
def entry (sourced : SourcedEntry) : Entry := sourced.grouped.entry

/-- The entry blocks requests. -/
def isBlock (sourced : SourcedEntry) : Bool := sourced.entry.action.kind == .block

/-- The entry of a rule, if the host has a counterpart. -/
def ofRule? (version : HostVersion) (rule : Rule) : Option SourcedEntry :=
  (rule.toEntry version).map fun grouped => { rule, grouped }

theorem toEntry_of_ofRule?
    {version : HostVersion}
    {rule : Rule}
    {sourced : SourcedEntry}
    (h : ofRule? version rule = some sourced) :
    sourced.rule.toEntry version = some sourced.grouped := by
  obtain ⟨grouped, hgrouped, rfl⟩ := Option.map_eq_some_iff.mp h
  exact hgrouped

end SourcedEntry

namespace Assembled

/-- The entries of some rules with their rules: one group after the other, and within a
group in the order of the rules. -/
def emission (version : HostVersion) (rules : List Rule) : List SourcedEntry :=
  EntryGroup.inOrder.flatMap fun group =>
    (rules.filterMap (SourcedEntry.ofRule? version)).filter (·.grouped.group = group)

theorem map_grouped_emission
    (version : HostVersion)
    (rules : List Rule) :
    (emission version rules).map SourcedEntry.grouped =
      GroupedEntry.byGroup (rules.filterMap (·.toEntry version)) := by
  have hgrouped :
      (rules.filterMap (SourcedEntry.ofRule? version)).map SourcedEntry.grouped =
        rules.filterMap (·.toEntry version) := by
    rw [List.map_filterMap]
    congr
    funext rule
    simp only [SourcedEntry.ofRule?, Option.map_map]
    exact Option.map_id'
  rw [← hgrouped, emission, GroupedEntry.byGroup, List.map_flatMap]
  congr
  funext group
  rw [GroupedEntry.ofGroup, List.filter_map]
  rfl

/-- **What is emitted are the entries of the rules.** -/
theorem sortedEntries_eq_emission
    (version : HostVersion)
    (rules : List Rule) :
    sortedEntries version rules = (emission version rules).map SourcedEntry.entry := by
  rw [sortedEntries_eq, ← map_grouped_emission, List.map_map]
  rfl

theorem toEntry_of_mem_emission
    {version : HostVersion}
    {rules : List Rule}
    {sourced : SourcedEntry}
    (h : sourced ∈ emission version rules) :
    sourced.rule.toEntry version = some sourced.grouped := by
  obtain ⟨group, -, hgroup⟩ := List.mem_flatMap.mp h
  obtain ⟨rule, -, hrule⟩ := List.mem_filterMap.mp (List.mem_filter.mp hgroup).1
  exact SourcedEntry.toEntry_of_ofRule? hrule

theorem pairwise_emission
    (version : HostVersion)
    (rules : List Rule) :
    (emission version rules).Pairwise (·.grouped.group.rank ≤ ·.grouped.group.rank) := by
  have hsorted := GroupedEntry.pairwise_byGroup (rules.filterMap (·.toEntry version))
  rw [← map_grouped_emission, List.pairwise_map] at hsorted
  exact hsorted.imp fun h => of_decide_eq_true h

/-- The entries that a ruleset holds, with their rules. -/
def emitted (version : HostVersion) (limits : Limits) (rules : List Rule) : List SourcedEntry :=
  (emission version rules).take (ofRules version limits rules).entriesCount

theorem ofRules_eq_emission
    (version : HostVersion)
    (limits : Limits)
    (rules : List Rule) :
    ofRules version limits rules =
      ofEntries limits ((emission version rules).map SourcedEntry.entry) := by
  rw [ofRules, sortedEntries_eq_emission]

/-- **The text of a ruleset is that of the emitted entries.** -/
theorem json_ofRules
    (version : HostVersion)
    (limits : Limits)
    (rules : List Rule) :
    (ofRules version limits rules).json =
      if (ofRules version limits rules).entriesCount = 0 then neutralRuleset
      else Ruleset.text ((emitted version limits rules).map SourcedEntry.entry) := by
  obtain ⟨k, -, hassembled, -⟩ :=
    ofEntries_eq limits ((emission version rules).map SourcedEntry.entry)
  rw [emitted, List.map_take]
  simp only [ofRules_eq_emission, hassembled]

end Assembled

/-! ## Exceptions and what they override -/

namespace NetworkRule

/-- The options that switch blocking off on a page. -/
def blockingOptions : List PageOption := [.document, .urlblock, .genericblock]

/-- The options that switch hiding off on a page, and nothing else. -/
def hidingOptions : List PageOption := [.elemhide, .specifichide, .generichide]

/-- The rule is an exception that lifts blocking, of requests or on pages. -/
def liftsBlocking (rule : NetworkRule) : Bool :=
  rule.header.isException &&
    (!rule.options.hasAny pageLevel || rule.options.hasAny blockingOptions)

/-- The rule, as an exception, prevails over important rules too. -/
def isStrong (rule : NetworkRule) : Bool :=
  rule.header.isImportant || rule.options.has .document

end NetworkRule

namespace Rule

/-- The first rule is an exception that is meant to lift the blocking by the second
one. -/
def overrides (exception block : Rule) : Bool :=
  match exception with
  | network exception =>
      exception.liftsBlocking && (!block.header.isImportant || exception.isStrong)
  | cosmetic _ => false

/-- The first rule is an exception about pages that does not switch everything off, and
either it switches off hiding, or the second rule is important. -/
def comesEarly (exception block : Rule) : Bool :=
  match exception with
  | network exception =>
      exception.options.hasAny NetworkRule.pageLevel && !exception.options.has .document &&
        (exception.options.hasAny NetworkRule.hidingOptions || block.header.isImportant)
  | cosmetic _ => false

end Rule

/-! ## Groups -/

/-- The group of the entries that block. -/
def EntryGroup.ofBlock (isImportant : Bool) : EntryGroup :=
  if isImportant then .important else .blocking

namespace NetworkRule

theorem group_of_exception
    {rule : NetworkRule}
    {version : HostVersion}
    {grouped : GroupedEntry}
    (hexception : rule.header.isException)
    (h : rule.toEntry version = some grouped) :
    grouped.group =
      if rule.options.hasAny pageLevel then rule.pageGroup else rule.requestGroup := by
  unfold toEntry at h
  split at h
  · cases h
  split at h
  · next hpage =>
      rw [Bool.and_eq_true] at hpage
      cases h
      rw [if_pos hpage.2]
  · next hpage =>
      rw [hexception, Bool.true_and] at hpage
      split at h
      · cases h
      split at h
      · cases h
      · cases h
        rw [if_neg hpage]

theorem group_of_block
    {rule : NetworkRule}
    {version : HostVersion}
    {grouped : GroupedEntry}
    (h : rule.toEntry version = some grouped)
    (hblock : grouped.entry.action.kind = .block) :
    grouped.group = .ofBlock rule.header.isImportant := by
  unfold toEntry at h
  split at h
  · cases h
  split at h
  · cases h
    cases hblock
  split at h
  · cases h
  split at h
  · cases h
  · cases h
    unfold requestGroup
    cases hexception : rule.header.isException with
    | false => cases rule.header.isImportant <;> rfl
    | true => simp [Action.ofKind, requestAction, hexception] at hblock

/-- An exception about requests comes after what it overrides. -/
theorem rank_requestGroup
    {rule : NetworkRule}
    {isImportant : Bool}
    (hexception : rule.header.isException)
    (h : isImportant → rule.header.isImportant) :
    (EntryGroup.ofBlock isImportant).rank < rule.requestGroup.rank := by
  unfold requestGroup
  rw [hexception]
  cases isImportant with
  | true =>
      rw [h rfl]
      decide
  | false => cases rule.header.isImportant <;> decide

/-- An exception about pages comes after what it overrides if it switches everything
off, and also if it switches off no hiding and meets no important rule. -/
theorem rank_pageGroup
    (rule : NetworkRule)
    (isImportant : Bool) :
    if !rule.options.has .document && (rule.options.hasAny hidingOptions || isImportant) then
      rule.pageGroup.rank < (EntryGroup.ofBlock isImportant).rank
    else (EntryGroup.ofBlock isImportant).rank < rule.pageGroup.rank := by
  have hhiding :
      rule.options.hasAny hidingOptions =
        (rule.options.hasAny [.elemhide, .specifichide] || rule.options.has .generichide) := by
    simp [PageOptions.hasAny, hidingOptions, Bool.or_assoc]
  rw [hhiding, pageGroup]
  -- the three tests that choose the group, against both groups of blocks
  cases rule.options.has .document <;>
    cases rule.options.hasAny [.elemhide, .specifichide] <;>
      cases rule.options.has .generichide <;>
        cases isImportant <;> decide

theorem hasAny_pageLevel_of_document
    {rule : NetworkRule}
    (h : rule.options.has .document) :
    rule.options.hasAny pageLevel := by
  simp [PageOptions.hasAny, pageLevel, h]

end NetworkRule

namespace Rule

/-- **The group of an exception is not that of a block it overrides.**  It is the later
one unless the exception comes early. -/
theorem rank_of_overrides
    {exception block : Rule}
    {version : HostVersion}
    {lifting blocking : GroupedEntry}
    (hoverrides : exception.overrides block)
    (hlifting : exception.toEntry version = some lifting)
    (hblocking : block.toEntry version = some blocking)
    (hblock : blocking.entry.action.kind = .block) :
    if exception.comesEarly block then lifting.group.rank < blocking.group.rank
    else blocking.group.rank < lifting.group.rank := by
  have hblockGroup : blocking.group = .ofBlock block.header.isImportant := by
    cases block with
    | network block => exact NetworkRule.group_of_block hblocking hblock
    | cosmetic block =>
        simp only [toEntry, CosmeticRule.toEntry, Option.ite_none_left_eq_some,
          Option.some.injEq] at hblocking
        obtain ⟨-, rfl⟩ := hblocking
        cases hblock
  cases exception with
  | cosmetic exception => cases hoverrides
  | network exception =>
      simp only [overrides, NetworkRule.liftsBlocking, NetworkRule.isStrong, Bool.and_eq_true,
        Bool.or_eq_true, Bool.not_eq_true'] at hoverrides
      obtain ⟨⟨hexception, -⟩, hstrong⟩ := hoverrides
      rw [NetworkRule.group_of_exception hexception hlifting, hblockGroup]
      by_cases hpage : exception.options.hasAny NetworkRule.pageLevel
      · rw [if_pos hpage]
        simp only [comesEarly, hpage, Bool.true_and]
        exact NetworkRule.rank_pageGroup exception block.header.isImportant
      · rw [if_neg hpage]
        simp only [comesEarly, hpage, Bool.false_and, Bool.false_eq_true, if_false]
        refine NetworkRule.rank_requestGroup hexception fun himportant => ?_
        rcases hstrong with hunimportant | himportant' | hdocument
        · rw [himportant] at hunimportant
          cases hunimportant
        · exact himportant'
        · exact absurd (NetworkRule.hasAny_pageLevel_of_document hdocument) hpage

end Rule

/-! ## Emitted entries -/

namespace Assembled

/-- No exception stands before a block that it is meant to lift. -/
def KeepsPrecedence (entries : List SourcedEntry) : Prop :=
  entries.Pairwise fun earlier later => ¬ (later.isBlock ∧ earlier.rule.overrides later.rule)

instance (entries : List SourcedEntry) : Decidable (KeepsPrecedence entries) :=
  inferInstanceAs (Decidable (List.Pairwise _ _))

/-- **Where exceptions stand in a ruleset.**  In the order in which entries are written,
an exception that is meant to lift a block comes after it, except for an exception about
pages that does not switch everything off: it comes before the block if it switches off
hiding too, or if the block is important. -/
theorem ofRules_precedence
    (version : HostVersion)
    (limits : Limits)
    (rules : List Rule) :
    (ofRules version limits rules).json =
        (if (ofRules version limits rules).entriesCount = 0 then neutralRuleset
          else Ruleset.text ((emitted version limits rules).map SourcedEntry.entry)) ∧
      (emitted version limits rules).Pairwise fun earlier later =>
        (later.isBlock ∧ earlier.rule.overrides later.rule →
          earlier.rule.comesEarly later.rule) ∧
        (earlier.isBlock ∧ later.rule.overrides earlier.rule →
          ¬ later.rule.comesEarly earlier.rule) := by
  refine ⟨json_ofRules version limits rules, ?_⟩
  have hsorted := (pairwise_emission version rules).sublist
    (List.take_sublist (ofRules version limits rules).entriesCount _)
  refine hsorted.imp_of_mem fun {earlier later} hearlier hlater hrank => ?_
  have hearlier' := toEntry_of_mem_emission (List.mem_of_mem_take hearlier)
  have hlater' := toEntry_of_mem_emission (List.mem_of_mem_take hlater)
  constructor
  · rintro ⟨hblock, hoverrides⟩
    have hgroups := Rule.rank_of_overrides hoverrides hearlier' hlater' (beq_iff_eq.mp hblock)
    by_contra hlate
    rw [if_neg hlate] at hgroups
    omega
  · rintro ⟨hblock, hoverrides⟩ hearly
    have hgroups := Rule.rank_of_overrides hoverrides hlater' hearlier' (beq_iff_eq.mp hblock)
    rw [if_pos hearly] at hgroups
    omega

/-- An exception that switches off blocking on a page stands before a block if it
switches off hiding too, and an important one before an important block. -/
theorem urlblock_comes_early :
    let limits : Limits := { entries := 150000, bytes := none }
    let partly := ["||ads.example^", "@@||good.example^$elemhide,urlblock"]
    let important := ["||ads.example^$important", "@@||good.example^$urlblock,important"]
    ¬ KeepsPrecedence (emitted .v16_4 limits (RuleBatch.ofLines .v16_4 partly).rules) ∧
      ¬ KeepsPrecedence (emitted .v16_4 limits (RuleBatch.ofLines .v16_4 important).rules) := by
  simp only [emitted, ofRules_eq_emission]
  constructor
  · decide +kernel
  · decide +kernel

end Assembled
end FilterCompiler
