import FilterCompiler.Conversion.Basic
import Mathlib.Tactic.IntervalCases

/-!
# Who gets an exception

Two parts of a conversion look at the options of an exception: splitting decides which
engine gets it, and making entries decides what the host can do with it.  They agree
except for two sets of options.  An exception that lifts blocking on a page is kept from
the host if it also switches off script injection (`withheld_iff`), and an exception
that only switches off the filtering of markup is given to the host, which can do
nothing with it, and not to the extended engine (`lost_iff`).
-/

namespace FilterCompiler

/-! ## Sets of page options -/

namespace PageOptions

theorem hasAny_iff
    (s : PageOptions)
    (options : List PageOption) :
    s.hasAny options ↔ ∃ o ∈ options, s.has o :=
  List.any_eq_true

theorem hasAny_append
    (s : PageOptions)
    (first second : List PageOption) :
    s.hasAny (first ++ second) = (s.hasAny first || s.hasAny second) :=
  List.any_append

theorem has_only
    (o p : PageOption) :
    has o.only p = decide (p = o) := by
  cases o <;> cases p <;> rfl

/-- A set is told by its members. -/
theorem eq_of_has_eq
    {s t : PageOptions}
    (h : ∀ o, s.has o = t.has o) :
    s = t := by
  apply BitVec.eq_of_getLsbD_eq
  intro i hi
  have hposition : ∃ o : PageOption, o.position = i := by
    interval_cases i
    · exact ⟨.elemhide, rfl⟩
    · exact ⟨.generichide, rfl⟩
    · exact ⟨.genericblock, rfl⟩
    · exact ⟨.specifichide, rfl⟩
    · exact ⟨.jsinject, rfl⟩
    · exact ⟨.urlblock, rfl⟩
    · exact ⟨.content, rfl⟩
    · exact ⟨.document, rfl⟩
    · exact ⟨.popup, rfl⟩
  obtain ⟨o, rfl⟩ := hposition
  exact h o

/-- A set that holds one option only has that option and no other one. -/
theorem eq_only_iff
    (s : PageOptions)
    (o : PageOption) :
    s = o.only ↔ ∀ p, s.has p = decide (p = o) := by
  constructor
  · rintro rfl p
    exact has_only o p
  · intro h
    apply eq_of_has_eq
    intro p
    rw [h, has_only]

end PageOptions

/-! ## Entries -/

namespace NetworkRule

/-- The options that switch blocking off on a page and do nothing else, so that the
extended engine does not have to know them. -/
def requestOptions : List PageOption := [.urlblock, .genericblock]

/-- What an option is to the two engines. -/
theorem option_cases
    (o : PageOption) :
    o ∈ sharedOptions ∨ o ∈ requestOptions ∨ o = .jsinject ∨ o = .content ∨ o = .popup := by
  cases o <;> decide

/-- **When a network rule has an entry.** -/
theorem isSome_toEntry
    (rule : NetworkRule)
    (version : HostVersion) :
    (rule.toEntry version).isSome ↔
      ¬ rule.options.has .popup ∧
        (rule.header.isException ∧ rule.options.hasAny pageLevel ∨
          ¬ rule.options.hasAny exceptionOnly ∧ rule.effectiveTypes ≠ .none) := by
  unfold toEntry
  split
  · next hpopup => simp [hpopup]
  · next hpopup =>
      rw [← Bool.and_eq_true]
      split
      · next hpage => simp [hpopup, hpage]
      · next hpage =>
          split
          · next honly => simp [hpage, honly]
          · next honly =>
              split
              · next htypes => simp [hpage, htypes]
              · next htypes => simp [hpopup, honly, htypes]

theorem hasAny_pageLevel
    (rule : NetworkRule) :
    rule.options.hasAny pageLevel =
      (rule.options.hasAny sharedOptions || rule.options.hasAny requestOptions) :=
  PageOptions.hasAny_append rule.options sharedOptions requestOptions

end NetworkRule

theorem CosmeticRule.isNative_of_toEntry
    {rule : CosmeticRule}
    {version : HostVersion}
    (hentry : (rule.toEntry version).isSome) :
    rule.isNative := by
  unfold toEntry at hentry
  split at hentry
  · cases hentry
  · next hskipped =>
      rw [Bool.not_eq_true, Bool.or_eq_false_iff] at hskipped
      simpa using hskipped.1

/-! ## Subsets -/

namespace NetworkRule

theorem isShared_iff
    (rule : NetworkRule) :
    rule.isShared ↔ rule.header.isException ∧ rule.options.hasAny sharedOptions := by
  rw [isShared, Bool.and_eq_true]

theorem isExtendedOnly_iff
    (rule : NetworkRule) :
    rule.isExtendedOnly ↔
      rule.header.isException ∧ ¬ rule.options.hasAny sharedOptions ∧
        rule.options.has .jsinject := by
  cases hexception : rule.header.isException <;> simp [isExtendedOnly, isShared, hexception]

end NetworkRule

theorem mem_splitRules_fst
    {rules : List Rule}
    {rule : Rule} :
    rule ∈ (splitRules rules).1 ↔ rule ∈ rules ∧ rule.isBasic :=
  List.mem_filter

theorem mem_splitRules_snd
    {rules : List Rule}
    {rule : Rule} :
    rule ∈ (splitRules rules).2 ↔ rule ∈ rules ∧ rule.isExtended :=
  List.mem_filter

/-! ## Withheld rules -/

namespace NetworkRule

/-- The rule lifts blocking on a page and switches off script injection, and nothing
that both engines have to know. -/
def isWithheld (rule : NetworkRule) : Bool :=
  rule.header.isException && rule.options.has .jsinject &&
    rule.options.hasAny requestOptions &&
    !rule.options.hasAny sharedOptions &&
    !rule.options.has .popup

theorem withheld_network_iff
    (version : HostVersion)
    (rule : NetworkRule) :
    (rule.toEntry version).isSome ∧ rule.isExtendedOnly ↔ rule.isWithheld := by
  rw [isSome_toEntry, isExtendedOnly_iff, hasAny_pageLevel]
  simp only [isWithheld, Bool.and_eq_true, Bool.or_eq_true, Bool.not_eq_true']
  constructor
  · rintro ⟨⟨hpopup, hentry⟩, hexception, hshared, hjsinject⟩
    rw [Bool.not_eq_true] at hpopup hshared
    refine ⟨⟨⟨⟨hexception, hjsinject⟩, ?_⟩, hshared⟩, hpopup⟩
    -- a rule about requests has no entry, as script injection is for exceptions only
    rcases hentry with ⟨-, hshared' | hblocking⟩ | ⟨honly, -⟩
    · rw [hshared] at hshared'
      cases hshared'
    · exact hblocking
    · exact absurd ((PageOptions.hasAny_iff _ _).mpr ⟨.jsinject, by decide, hjsinject⟩) honly
  · rintro ⟨⟨⟨⟨hexception, hjsinject⟩, hblocking⟩, hshared⟩, hpopup⟩
    have hshared' : ¬ rule.options.hasAny sharedOptions := by
      rw [Bool.not_eq_true]
      exact hshared
    rw [Bool.not_eq_true]
    exact ⟨⟨hpopup, Or.inl ⟨hexception, Or.inr hblocking⟩⟩, hexception, hshared', hjsinject⟩

end NetworkRule

/-- The rule is a network rule that is withheld from the host. -/
def Rule.isWithheld : Rule → Bool
  | network rule => rule.isWithheld
  | cosmetic _ => false

/-- **What the host could execute is withheld from it in one case only.** -/
theorem withheld_iff
    (version : HostVersion)
    (rules : List Rule)
    (rule : Rule)
    (hrule : rule ∈ rules) :
    (rule.toEntry version).isSome ∧ rule ∉ (splitRules rules).1 ↔ rule.isWithheld := by
  have hsubset : rule ∉ (splitRules rules).1 ↔ ¬ rule.isBasic := by
    rw [mem_splitRules_fst, not_and]
    exact ⟨fun h => h hrule, fun h _ => h⟩
  rw [hsubset]
  cases rule with
  | network rule =>
      rw [Rule.isBasic, Bool.not_eq_true, Bool.not_eq_false']
      exact NetworkRule.withheld_network_iff version rule
  | cosmetic rule =>
      simp only [Rule.isWithheld, Bool.false_eq_true, iff_false]
      rintro ⟨hentry, hbasic⟩
      exact hbasic (CosmeticRule.isNative_of_toEntry hentry)

/-- The exception that a line with this text stands for, if the line switches off these
options on the pages of one host. -/
def NetworkRule.exceptionOn (text : String) (options : PageOptions) : NetworkRule :=
  { NetworkRule.blank text true with
    pattern := "||good.example^"
    regex := some "^[^:]+://+([^:/]+\\.)?good\\.example[/:]"
    permitted := ContentType.document.only
    options := options }

/-- An exception that lifts blocking and script injection from a page has an entry, and
goes to the extended engine only. -/
theorem withheld_iff_jsinject_urlblock :
    let rule : Rule :=
      .network (.exceptionOn "@@||good.example^$jsinject,urlblock"
        (PageOption.jsinject.only ||| PageOption.urlblock.only))
    let rules := (RuleBatch.ofLines .v16_4 [rule.text]).rules
    rule ∈ rules ∧
      ((rule.toEntry .v16_4).isSome ∧ rule ∉ (splitRules rules).1 ↔ rule.isWithheld) := by
  intro rule rules
  have hrule : rule ∈ rules := by decide +kernel
  exact ⟨hrule, withheld_iff .v16_4 rules rule hrule⟩

theorem jsinject_urlblock_withheld :
    let rules := (RuleBatch.ofLines .v16_4 ["@@||good.example^$jsinject,urlblock"]).rules
    ¬ ∀ rule ∈ rules, (rule.toEntry .v16_4).isSome → rule ∈ (splitRules rules).1 := by
  decide +kernel

/-! ## Lost exceptions -/

namespace NetworkRule

theorem hasOnly_content_iff
    (rule : NetworkRule) :
    rule.hasOnly .content ↔
      rule.options.has .content ∧ ¬ rule.options.hasAny sharedOptions ∧
        ¬ rule.options.hasAny requestOptions ∧
        ¬ rule.options.has .jsinject ∧ ¬ rule.options.has .popup := by
  rw [hasOnly, beq_iff_eq]
  constructor
  · intro hcontent
    rw [hcontent]
    decide
  · rintro ⟨hcontent, hshared, hblocking, hjsinject, hpopup⟩
    rw [PageOptions.hasAny_iff] at hshared hblocking
    rw [PageOptions.eq_only_iff]
    intro o
    rw [Bool.eq_iff_iff, decide_eq_true_iff]
    constructor
    · intro ho
      rcases option_cases o with ho' | ho' | rfl | rfl | rfl
      · exact absurd ⟨o, ho', ho⟩ hshared
      · exact absurd ⟨o, ho', ho⟩ hblocking
      · exact absurd ho hjsinject
      · rfl
      · exact absurd ho hpopup
    · rintro rfl
      exact hcontent

/-- The extended engine gets the exceptions that it has to know, whether or not the host
has to know them too. -/
theorem isExtended_network_iff
    {rule : NetworkRule}
    (hexception : rule.header.isException) :
    (Rule.network rule).isExtended ↔
      rule.options.hasAny sharedOptions ∨ rule.options.has .jsinject := by
  rw [Rule.isExtended, Bool.or_eq_true, isShared_iff, isExtendedOnly_iff]
  tauto

theorem hasAny_exceptionOnly_iff
    {rule : NetworkRule}
    (hshared : ¬ rule.options.hasAny sharedOptions)
    (hjsinject : ¬ rule.options.has .jsinject)
    (hpopup : ¬ rule.options.has .popup) :
    rule.options.hasAny exceptionOnly ↔
      rule.options.hasAny requestOptions ∨ rule.options.has .content := by
  simp only [PageOptions.hasAny_iff] at hshared ⊢
  constructor
  · rintro ⟨o, -, hhas⟩
    rcases option_cases o with ho | ho | rfl | rfl | rfl
    · exact absurd ⟨o, ho, hhas⟩ hshared
    · exact Or.inl ⟨o, ho, hhas⟩
    · exact absurd hhas hjsinject
    · exact Or.inr hhas
    · exact absurd hhas hpopup
  · rintro (⟨o, ho, hhas⟩ | hcontent)
    · have hsubset : requestOptions ⊆ exceptionOnly := by decide
      exact ⟨o, hsubset ho, hhas⟩
    · exact ⟨.content, by decide, hcontent⟩

/-- **An exception reaches an engine that can act on it unless it only switches off the
filtering of markup.** -/
theorem reaches_iff
    (version : HostVersion)
    (rule : NetworkRule)
    (hexception : rule.header.isException)
    (hpopup : ¬ rule.options.has .popup)
    (htypes : rule.effectiveTypes ≠ .none) :
    (rule.toEntry version).isSome ∧ (Rule.network rule).isBasic ∨
        (Rule.network rule).isExtended ↔
      ¬ rule.hasOnly .content := by
  rw [hasOnly_content_iff]
  by_cases hextended : (Rule.network rule).isExtended
  · have hknown := (isExtended_network_iff hexception).mp hextended
    exact iff_of_true (Or.inr hextended) fun h => hknown.elim h.2.1 h.2.2.2.1
  · -- only the host is left, which needs something to lift or a plain request
    obtain ⟨hshared, hjsinject⟩ :=
      not_or.mp (mt (isExtended_network_iff hexception).mpr hextended)
    have hbasic : (Rule.network rule).isBasic := by
      rw [Rule.isBasic, Bool.not_eq_true', ← Bool.not_eq_true, isExtendedOnly_iff]
      exact fun h => hjsinject h.2.2
    have hentry :
        (rule.toEntry version).isSome ↔
          rule.options.hasAny requestOptions ∨ ¬ rule.options.has .content := by
      rw [isSome_toEntry, hasAny_pageLevel, Bool.or_eq_true,
        hasAny_exceptionOnly_iff hshared hjsinject hpopup]
      tauto
    rw [hentry]
    tauto

end NetworkRule

/-- **An exception is lost in one case only.**  If it applies to some type of content and
is not about pop-ups, it has an entry for the host or goes to the extended engine,
unless it switches off the filtering of markup and nothing else. -/
theorem lost_iff
    (version : HostVersion)
    (rules : List Rule)
    (rule : NetworkRule)
    (hrule : .network rule ∈ rules)
    (hexception : rule.header.isException)
    (hpopup : ¬ rule.options.has .popup)
    (htypes : rule.effectiveTypes ≠ .none) :
    (rule.toEntry version).isSome ∧ .network rule ∈ (splitRules rules).1 ∨
        .network rule ∈ (splitRules rules).2 ↔
      ¬ rule.hasOnly .content := by
  rw [mem_splitRules_fst, mem_splitRules_snd, and_iff_right hrule, and_iff_right hrule]
  exact NetworkRule.reaches_iff version rule hexception hpopup htypes

/-- An exception that switches off script injection goes to the extended engine. -/
theorem lost_iff_jsinject :
    let rule := NetworkRule.exceptionOn "@@||good.example^$jsinject" PageOption.jsinject.only
    let rules := (RuleBatch.ofLines .v16_4 [rule.header.text]).rules
    .network rule ∈ rules ∧ rule.header.isException ∧ ¬ rule.options.has .popup ∧
      rule.effectiveTypes ≠ .none ∧
      ((rule.toEntry .v16_4).isSome ∧ .network rule ∈ (splitRules rules).1 ∨
          .network rule ∈ (splitRules rules).2 ↔
        ¬ rule.hasOnly .content) := by
  intro rule rules
  have hrule : .network rule ∈ rules := by decide +kernel
  have hpopup : ¬ rule.options.has .popup := by decide
  have htypes : rule.effectiveTypes ≠ .none := by decide
  exact ⟨hrule, rfl, hpopup, htypes, lost_iff .v16_4 rules rule hrule rfl hpopup htypes⟩

/-- An exception that switches off the filtering of markup is given to the host, which
has no counterpart of it. -/
theorem content_lost :
    let rule := NetworkRule.exceptionOn "@@||good.example^$content" PageOption.content.only
    let rules := (RuleBatch.ofLines .v16_4 [rule.header.text]).rules
    .network rule ∈ rules ∧ rule.header.isException ∧ ¬ rule.options.has .popup ∧
      rule.effectiveTypes ≠ .none ∧
      ¬ ((rule.toEntry .v16_4).isSome ∧ .network rule ∈ (splitRules rules).1 ∨
          .network rule ∈ (splitRules rules).2) := by
  decide +kernel

end FilterCompiler
