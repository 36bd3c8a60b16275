import FilterCompiler.Conversion.Allowlist
import FilterCompiler.Proofs.Conversion.DocumentException
import FilterCompiler.Proofs.Pattern.HostAnchor
import Mathlib.Data.List.TakeWhile

/-!
# Allowlisted domains

The line that switches blocking off on a domain is read as one exception, whatever the
domain is (`outcomes_line`).  The host of its pattern is the domain if that has five
characters or more (`splitHost?_hostName`), and then the entry acts on all loads of pages
on the domain.  A shorter domain is no host of a pattern, so the entry acts on loads from
the domain instead, which switches blocking off on no page (`run_line`, `run_line_short`).
-/

namespace FilterCompiler

/-! ## Host names -/

namespace Domain

/-- A label of a host name: letters, digits, and hyphens that are not at its ends. -/
def IsLabel (label : List Char) : Prop :=
  label ≠ [] ∧ (label.all fun c => isAlphanumeric c || c == '-') ∧
    label.head? ≠ some '-' ∧ label.getLast? ≠ some '-'

instance (label : List Char) : Decidable (IsLabel label) :=
  inferInstanceAs (Decidable (_ ∧ _ ∧ _ ∧ _))

/-- The domain consists of two or more labels. -/
def IsHostName (domain : String) : Prop :=
  2 ≤ (Text.splitOn '.' domain.toList).length ∧
    ∀ label ∈ Text.splitOn '.' domain.toList, IsLabel label

instance (domain : String) : Decidable (IsHostName domain) :=
  inferInstanceAs (Decidable (_ ∧ ∀ _ ∈ _, _))

variable {domain : String}

theorem IsLabel.isAlphanumeric_or_eq
    {label : List Char}
    (h : IsLabel label) :
    ∀ c ∈ label, isAlphanumeric c ∨ c = '-' := by
  simpa using h.2.1

theorem IsHostName.isNameChar
    (h : IsHostName domain) :
    ∀ c ∈ domain.toList, isNameChar c := by
  rw [← Text.joinWith_splitOn '.' domain.toList]
  refine Text.forall_mem_joinWith (List.all_eq_true.mp rfl) fun label hlabel c hc => ?_
  rcases (h.2 label hlabel).isAlphanumeric_or_eq c hc with hc | rfl
  · simp [Domain.isNameChar, hc]
  · decide

theorem IsHostName.isAscii
    (h : IsHostName domain) :
    ∀ c ∈ domain.toList, Text.isAscii c :=
  fun c hc => isAscii_of_isNameChar (h.isNameChar c hc)

/-- A host name begins with a letter or a digit. -/
theorem IsHostName.exists_head
    (h : IsHostName domain) :
    ∃ c s, domain.toList = c :: s ∧ isAlphanumeric c := by
  obtain ⟨label, labels, hlabels⟩ :=
    List.exists_cons_of_ne_nil (Text.splitOn_ne_nil '.' domain.toList)
  have hlabel := h.2 label (hlabels ▸ List.mem_cons_self)
  obtain ⟨c, rest, rfl⟩ := List.exists_cons_of_ne_nil hlabel.1
  have hjoin := Text.joinWith_splitOn '.' domain.toList
  rw [hlabels] at hjoin
  have hc : isAlphanumeric c :=
    (hlabel.isAlphanumeric_or_eq c List.mem_cons_self).resolve_right
      fun hc => hlabel.2.2.1 (hc ▸ rfl)
  cases labels with
  | nil => exact ⟨c, rest, hjoin.symm, hc⟩
  | cons label' labels => exact ⟨c, _, hjoin.symm, hc⟩

/-- A host name does not end with a dot, since its last label is not empty. -/
theorem IsHostName.getLast?_ne
    (h : IsHostName domain) :
    domain.toList.getLast? ≠ some '.' := by
  intro hlast
  obtain ⟨s, hs⟩ := List.getLast?_eq_some_iff.mp hlast
  have hempty : [] ∈ Text.splitOn '.' domain.toList := by
    rw [hs, Text.splitOn_append_cons]
    exact List.mem_append_right _ List.mem_cons_self
  exact (h.2 [] hempty).1 rfl

end Domain

/-! ## The host of the pattern -/

namespace Pattern

open Domain (IsHostName)

/-- No other lead begins as `||` does. -/
theorem longestLead_hostAnchor
    (s : List Char) :
    longestLead ('|' :: '|' :: s) (hostLeads.map String.toList) = ['|', '|'] := by
  rfl

/-- **A host name is the host of its pattern if it is long enough.** -/
theorem splitHost?_hostName
    {domain : String}
    (h : IsHostName domain) :
    splitHost? ("||" ++ domain).toList =
      if shortestHost ≤ domain.length then
        some { lead := ['|', '|'], host := domain.toList, rest := [] }
      else none := by
  have hends : ∀ c ∈ domain.toList, (!endsHost c) = true := by
    intro c hc
    have hne {d : Char} (hd : Domain.isNameChar d = false) : c ≠ d :=
      Domain.ne_of_isNameChar (h.isNameChar c hc) hd
    simp [endsHost, @hne '^' (by decide), @hne '/' (by decide), @hne '$' (by decide)]
  have hchars : domain.toList.all isHostChar := by
    rw [List.all_eq_true]
    intro c hc
    have hchar := h.isNameChar c hc
    simp only [Domain.isNameChar, Bool.or_eq_true] at hchar
    simp only [isHostChar, isHostStart, Bool.or_eq_true]
    exact hchar.imp_left (.imp_left .inl)
  have hhead : domain.toList.head?.any isHostStart := by
    obtain ⟨c, s, hs, hc⟩ := h.exists_head
    simp [hs, isHostStart, hc]
  have hlast : Text.endsWithChar '.' domain.toList = false := by
    simpa [Text.endsWithChar] using h.getLast?_ne
  have hlength : Text.byteLength domain.toList = domain.length := by
    rw [Text.byteLength_of_isAscii h.isAscii, String.length_toList]
  have hpattern : ("||" ++ domain).toList = '|' :: '|' :: domain.toList := by simp
  rw [hpattern, splitHost?]
  simp only [longestLead_hostAnchor, List.length_cons, List.length_nil, List.drop_succ_cons,
    List.drop_zero, List.takeWhile_eq_self_iff.mpr hends, List.dropWhile_eq_nil_iff.mpr hends,
    hhead, hchars, hlast, hlength, Bool.and_false, Bool.not_false, Bool.and_self, Bool.true_and,
    decide_eq_true_eq]

end Pattern

/-! ## The line -/

namespace Allowlist

open Domain (IsHostName)
open NetworkRule (documentException)

theorem toList_line
    (domain : String) :
    (line domain).toList = ("@@||" ++ domain).toList ++ '$' :: "document".toList := by
  simp [line]

theorem ofLine_line
    {domain : String}
    (h : IsHostName domain) :
    RuleParts.ofLine (line domain).toList =
      { isException := true
        pattern := ("||" ++ domain).toList
        options := some "document".toList } := by
  have hnil : domain.toList ≠ [] := by
    obtain ⟨c, s, hs, -⟩ := h.exists_head
    rw [hs]
    exact List.cons_ne_nil c s
  rw [toList_line, RuleParts.ofLine_append_dollar]
  · simp [cutException]
  · rw [String.toList_append, List.getLast?_append_of_ne_nil _ hnil]
    exact fun hlast => Domain.notMem_of_isNameChar h.isNameChar (by decide)
      (List.mem_of_getLast? hlast)
  · decide
  · decide

theorem occurs_denyallowSign_line
    {domain : String}
    (h : IsHostName domain) :
    Text.occurs Canonical.denyallowSign (line domain).toList = false := by
  rw [← Bool.not_eq_true, Text.occurs_iff]
  intro hsign
  have hmem : '=' ∈ (line domain).toList := hsign.subset (by decide)
  rw [toList_line, String.toList_append, List.mem_append, List.mem_append] at hmem
  rcases hmem with (hmem | hmem) | hmem
  · exact absurd hmem (by decide)
  · exact Domain.notMem_of_isNameChar h.isNameChar (by decide) hmem
  · exact absurd hmem (by decide)

theorem parse_line
    (version : HostVersion)
    {domain regex : String}
    (h : IsHostName domain)
    (hregex : Pattern.toRegex ("||" ++ domain) = .ok regex) :
    NetworkRule.parse version (line domain) =
      .ok (documentException (line domain) ("||" ++ domain) regex .everywhere) := by
  have hlength : 3 ≤ Text.byteLength ("||" ++ domain).toList := by
    obtain ⟨c, s, hs, -⟩ := h.exists_head
    rw [Text.byteLength_of_isAscii (Pattern.isAscii_of_toRegex hregex), String.toList_append, hs]
    have hlead : "||".toList.length = 2 := rfl
    rw [List.length_append, List.length_cons]
    omega
  have hms : Modifier.parseAll version (NetworkRule.optionTexts (some "document".toList)) =
      .ok [.page .document] :=
    Modifier.parseAll_eq_ok_iff.mpr (.cons (Modifier.parse_document version) .nil)
  exact NetworkRule.parse_documentException (ofLine_line h) ⟨domain.toList, by simp⟩ hlength hregex
    hms rfl

/-- **The line of a host name is one exception.** -/
theorem outcomes_line
    (version : HostVersion)
    {domain regex : String}
    (h : IsHostName domain)
    (hregex : Pattern.toRegex ("||" ++ domain) = .ok regex) :
    Rule.outcomes version (line domain) =
      [.ok (.network (documentException (line domain) ("||" ++ domain) regex .everywhere))] := by
  refine Rule.outcomes_of_parse ?_ ?_ ?_ (occurs_denyallowSign_line h) (parse_line version h hregex)
  · have hsplit : (line domain).toList = "@@||".toList ++ (domain.toList ++ "$document".toList) := by
      simp [line]
    have hlead : Text.byteLength "@@||".toList = 4 := rfl
    rw [hsplit, Text.byteLength_append]
    omega
  · simp [line]
  · intro c hc
    rw [toList_line, List.getLast?_append_of_ne_nil _ (List.cons_ne_nil _ _)] at hc
    obtain rfl : 't' = c := Option.some.inj hc
    decide

/-- **The trigger of the rule** acts on the pages of the domain if that is long enough. -/
theorem pageTrigger_line
    (version : HostVersion)
    {domain : String}
    (h : IsHostName domain)
    (text regex : String) :
    (documentException text ("||" ++ domain) regex .everywhere).pageTrigger version =
      if Pattern.shortestHost ≤ domain.length then
        { Trigger.ofFilter Pattern.matchAll with ifDomain := some ["*" ++ Domain.lower domain] }
      else Trigger.ofFilter regex := by
  have hhost := Pattern.splitHost?_hostName h
  unfold NetworkRule.pageTrigger NetworkRule.pageHost?
  dsimp only [documentException]
  rw [hhost]
  by_cases hlength : Pattern.shortestHost ≤ domain.length
  · simp [hlength, Pattern.HostSplit.hasPath, Text.byteLength, DomainScope.everywhere,
      domainItems?, NetworkRule.caseFlag, Trigger.ofFilter]
  · simp [hlength, Trigger.withScope, DomainScope.everywhere, domainItems?,
      NetworkRule.caseFlag, NetworkRule.urlFilter, Trigger.ofFilter]

/-- The entry of the line if the regex of its pattern is `filter`: it acts on all loads of
pages on a domain of five characters or more, and on loads from a shorter one. -/
def entry (domain filter : String) : Entry :=
  { trigger :=
      if Pattern.shortestHost ≤ domain.length then
        { Trigger.ofFilter Pattern.matchAll with ifDomain := some ["*" ++ Domain.lower domain] }
      else Trigger.ofFilter filter
    action := .ofKind .ignorePrevious }

/-- The line of a host name is converted into its entry. -/
theorem run_line_of_toRegex
    {options : ConversionOptions}
    {domain filter : String}
    (h : IsHostName domain)
    (hfilter : Pattern.toRegex ("||" ++ domain) = .ok filter)
    (hsize : ∀ max ∈ options.maxJsonSize,
      (Ruleset.text [entry domain filter]).utf8ByteSize ≤ max) :
    let conversion := (Conversion.run options (.always false) [line domain]).conversion
    conversion.errorsCount = 0 ∧ conversion.entriesCount = 1 ∧ conversion.discardedCount = 0 ∧
      Ruleset.parse? conversion.json = some [entry domain filter] := by
  have hentry := NetworkRule.toEntry_documentException (line domain) ("||" ++ domain) filter
    .everywhere options.version
  rw [NetworkRule.documentEntry, pageTrigger_line options.version h] at hentry
  exact Conversion.run_singleton (outcomes_line options.version h hfilter)
    (NetworkRule.isBasic_documentException _ _ _ _) rfl hentry hsize

/-- **What allowlisting a domain comes to.**  The line of a host name gives no error and one
entry, which lifts what comes before it and has no other condition than the following one:
it acts on all loads of pages on a domain of five characters or more, but on a shorter
domain it acts on the loads that the pattern matches. -/
theorem run_line
    (options : ConversionOptions)
    {domain : String}
    (h : IsHostName domain) :
    ∃ filter, Pattern.toRegex ("||" ++ domain) = .ok filter ∧
      ((∀ max ∈ options.maxJsonSize, (Ruleset.text [entry domain filter]).utf8ByteSize ≤ max) →
        let conversion := (Conversion.run options (.always false) [line domain]).conversion
        conversion.errorsCount = 0 ∧ conversion.entriesCount = 1 ∧
          conversion.discardedCount = 0 ∧
          Ruleset.parse? conversion.json = some [entry domain filter]) := by
  have hascii : ∀ c ∈ ("||" ++ domain).toList, Text.isAscii c := by
    rw [String.toList_append, List.forall_mem_append]
    exact ⟨List.all_eq_true.mp rfl, h.isAscii⟩
  obtain ⟨filter, -, hfilter, -⟩ := Pattern.exists_source_of_isAscii _ hascii
  exact ⟨filter, hfilter, run_line_of_toRegex h hfilter⟩

/-- A domain with a hyphen, a digit and capitals, and a cap that the entry meets. -/
theorem run_line_capitals :
    let options : ConversionOptions :=
      { version := .v13, advanced := true, maxJsonSize := some 104 }
    IsHostName "A-1.Example" ∧
      (∀ max ∈ options.maxJsonSize,
        (Ruleset.text [entry "A-1.Example" ""]).utf8ByteSize ≤ max) ∧
      let conversion := (Conversion.run options (.always false) [line "A-1.Example"]).conversion
      conversion.errorsCount = 0 ∧ conversion.entriesCount = 1 ∧ conversion.discardedCount = 0 ∧
        Ruleset.parse? conversion.json =
          some
            [{ trigger := { Trigger.ofFilter ".*" with ifDomain := some ["*a-1.example"] }
               action := .ofKind .ignorePrevious }] := by
  intro options
  have hname : IsHostName "A-1.Example" := by decide
  have hentry (filter : String) : entry "A-1.Example" filter =
      { trigger := { Trigger.ofFilter ".*" with ifDomain := some ["*a-1.example"] }
        action := .ofKind .ignorePrevious } := by
    rfl
  have hsize : ∀ max ∈ options.maxJsonSize,
      (Ruleset.text [entry "A-1.Example" ""]).utf8ByteSize ≤ max := by
    decide +kernel
  obtain ⟨filter, -, hrun⟩ := run_line options hname
  rw [hentry] at hsize hrun
  rw [hentry]
  exact ⟨hname, hsize, hrun hsize⟩

/-- The entry of a domain of four characters acts on no page of the domain as such. -/
theorem run_line_short :
    let options : ConversionOptions :=
      { version := .v16_4, advanced := false, maxJsonSize := none }
    IsHostName "t.co" ∧
      Ruleset.parse? (Conversion.run options (.always false) [line "t.co"]).conversion.json =
        some
          [{ trigger := .ofFilter "^[^:]+://+([^:/]+\\.)?t\\.co"
             action := .ofKind .ignorePrevious }] := by
  intro options
  have hname : IsHostName "t.co" := by decide
  have hfilter : Pattern.toRegex ("||" ++ "t.co") = .ok "^[^:]+://+([^:/]+\\.)?t\\.co" := by
    decide
  obtain ⟨-, -, -, hjson⟩ := @run_line_of_toRegex options _ _ hname hfilter (by decide)
  exact ⟨hname, hjson⟩

end Allowlist
end FilterCompiler
