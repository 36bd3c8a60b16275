import FilterCompiler.Conversion.Allowlist
import FilterCompiler.Proofs.Conversion.DocumentException
import FilterCompiler.Proofs.Pattern.HostAnchor
import FilterCompiler.Proofs.Rule.DomainCase

/-!
# Inverted allowlists

The line that switches blocking off everywhere but on some domains writes the domains as a
list, and reading the list gives back the domains that are not empty, in order
(`ofList_restrictedText`).  The pattern of the line has no host, so the entry has the
regex of the pattern and keeps the list on every version (`documentEntry_invertedRule`).
Among other rules nothing that blocks or hides comes after the entry
(`run_invertedLine`).
-/

namespace FilterCompiler

/-! ## Excluded domains -/

/-- No letter, digit, hyphen or dot is blank. -/
theorem Domain.isBlank_of_isNameChar
    {c : Char}
    (hc : isNameChar c) :
    Text.isBlank c = false := by
  have hblank : ∀ n < 128, isNameChar (Char.ofNat n) → Text.isBlank (Char.ofNat n) = false := by
    decide +kernel
  have hascii := Domain.isAscii_of_isNameChar hc
  rw [Text.isAscii, decide_eq_true_eq] at hascii
  have hchar := hblank c.toNat hascii
  rw [Char.ofNat_toNat] at hchar
  exact hchar hc

/-- An option that lists domains sets their scope. -/
theorem Modifier.parse_domains
    (version : HostVersion)
    {list : List Char}
    {scope : DomainScope}
    (hne : list ≠ [])
    (h : DomainScope.ofList '|' list = .ok scope) :
    parse version ("domain".toList ++ '=' :: list) = .ok (.domains scope) := by
  have hname : Text.nameAndValue ("domain".toList ++ '=' :: list) = ("domain".toList, list) :=
    Text.nameAndValue_append_cons (by decide) list
  have hfiller : isFiller "domain".toList = false := by decide
  have hdomain : isDomainName "domain".toList = true := by decide
  refine (parse_eq_ok_iff hname).mpr (.inr ⟨?_, .inl ⟨hdomain, hne, scope, h, rfl⟩⟩)
  rw [hfiller]
  exact Bool.false_ne_true

namespace Allowlist

open Domain (isNameChar)
open NetworkRule (documentException)

/-- A domain as an inverted allowlist may hold it: two or more letters, digits, hyphens and
dots. -/
def IsItem (domain : String) : Prop :=
  2 ≤ domain.length ∧ domain.toList.all isNameChar

instance (domain : String) : Decidable (IsItem domain) :=
  inferInstanceAs (Decidable (_ ∧ _))

theorem IsItem.isNameChar
    {item : String}
    (h : IsItem item) :
    ∀ c ∈ item.toList, isNameChar c :=
  List.all_eq_true.mp h.2

/-- A domain behind a tilde is read as an excluded one. -/
theorem read_tilde
    {item : String}
    (h : IsItem item) :
    DomainItem.read ('~' :: item.toList) = .ok { isExcluded := true, domain := item } := by
  have hascii : ∀ c ∈ item.toList, Text.isAscii c :=
    fun c hc => Domain.isAscii_of_isNameChar (h.isNameChar c hc)
  have hlength : 2 ≤ Text.byteLength item.toList := by
    rw [Text.byteLength_of_isAscii hascii, String.length_toList]
    exact h.1
  have hempty : item.toList.isEmpty = false := by
    rw [List.isEmpty_eq_false_iff]
    intro hnil
    rw [hnil] at hlength
    exact absurd hlength (by decide)
  have hregex : Pattern.isLiteralRegex item = false :=
    Pattern.isLiteralRegex_of_notMem (Domain.notMem_of_isNameChar h.isNameChar (by decide))
  have htilde : '~' ∉ item.toList := Domain.notMem_of_isNameChar h.isNameChar (by decide)
  have hencoded : Domain.toAscii item = some item := if_pos (List.all_eq_true.mpr hascii)
  have hread : DomainItem.readDomain item.toList = .ok item := by
    rw [DomainItem.readDomain, hempty, if_neg Bool.false_ne_true, if_neg htilde,
      if_neg (Nat.not_lt.mpr hlength), String.ofList_toList, hregex, if_neg Bool.false_ne_true,
      hencoded]
  rw [DomainItem.read, Text.cutTilde]
  dsimp only
  rw [hread]

/-- The list that excludes some domains. -/
def restrictedText (items : List String) : List Char :=
  Text.joinWith ['|'] (items.map fun item => '~' :: item.toList)

theorem cons_joinWith_tilde
    {pieces : List (List Char)}
    (h : pieces ≠ []) :
    '~' :: Text.joinWith ['|', '~'] pieces = Text.joinWith ['|'] (pieces.map ('~' :: ·)) := by
  induction pieces with
  | nil => exact absurd rfl h
  | cons piece pieces ih =>
      cases pieces with
      | nil => rfl
      | cons piece' pieces =>
          rw [Text.joinWith_cons_cons, List.map_cons, List.map_cons, Text.joinWith_cons_cons,
            ← List.map_cons, ← ih (List.cons_ne_nil _ _)]
          simp

variable {items : List String}

theorem mem_restrictedText
    (h : ∀ item ∈ items, IsItem item) :
    ∀ c ∈ restrictedText items, c = '|' ∨ c = '~' ∨ isNameChar c := by
  refine Text.forall_mem_joinWith (by simp) fun piece hpiece => ?_
  obtain ⟨item, hitem, rfl⟩ := List.mem_map.mp hpiece
  rw [List.forall_mem_cons]
  exact ⟨.inr (.inl rfl), fun c hc => .inr (.inr ((h item hitem).isNameChar c hc))⟩

theorem restrictedText_ne_nil
    (hne : items ≠ []) :
    restrictedText items ≠ [] := by
  obtain ⟨item, items, rfl⟩ := List.exists_cons_of_ne_nil hne
  cases items <;> exact List.cons_ne_nil _ _

theorem readAll_tilde
    (h : ∀ item ∈ items, IsItem item) :
    DomainItem.readAll (items.map fun item => '~' :: item.toList) =
      .ok (items.map fun item => { isExcluded := true, domain := item }) := by
  rw [DomainItem.readAll_eq_mapM, mapM_eq_ok_iff, List.forall₂_map_left_iff,
    List.forall₂_map_right_iff, List.forall₂_same]
  exact fun item hitem => read_tilde (h item hitem)

/-- **The domains that are written are read back**, in order. -/
theorem ofList_restrictedText
    (hne : items ≠ [])
    (h : ∀ item ∈ items, IsItem item) :
    DomainScope.ofList '|' (restrictedText items) = .ok { permitted := [], restricted := items } := by
  have hpieces : Text.splitOn '|' (restrictedText items) =
      items.map fun item => '~' :: item.toList := by
    refine Text.splitOn_joinWith (by simpa using hne) fun piece hpiece => ?_
    obtain ⟨item, hitem, rfl⟩ := List.mem_map.mp hpiece
    exact List.not_mem_cons_of_ne_of_not_mem (by decide)
      (Domain.notMem_of_isNameChar (h item hitem).isNameChar (by decide))
  rw [DomainScope.ofList, hpieces, readAll_tilde h]
  simp [DomainScope.ofItems, List.filter_map, Function.comp_def]

/-! ## The line -/

/-- The options of the line. -/
def invertedOptions (items : List String) : List Char :=
  "document".toList ++ ',' :: ("domain".toList ++ '=' :: restrictedText items)

/-- The regex of the pattern of the line. -/
def invertedFilter : String := Pattern.hostAnchor ++ Pattern.matchAll

theorem toRegex_invertedFilter :
    Pattern.toRegex "||*" = .ok invertedFilter := by
  decide

/-- The rule of the line. -/
def invertedRule (line : String) (items : List String) : NetworkRule :=
  documentException line "||*" invertedFilter { permitted := [], restricted := items }

/-- The entry of the line: it acts on pages that are not on the domains. -/
def invertedEntry (items : List String) : Entry :=
  { trigger :=
      { Trigger.ofFilter invertedFilter with
        unlessDomain := some (items.map fun item => "*" ++ Domain.lower item) }
    action := .ofKind .ignorePrevious }

theorem restrictedText_eq
    {items : List String}
    (hne : items ≠ []) :
    restrictedText items = '~' :: ("|~".intercalate items).toList := by
  have hne' : items.map String.toList ≠ [] := mt List.map_eq_nil_iff.mp hne
  have hpieces := cons_joinWith_tilde hne'
  rw [Text.joinWith_eq_intercalate, List.map_map] at hpieces
  rw [String.toList_intercalate]
  exact hpieces.symm

theorem exists_invertedLine?
    {domains : List String}
    (hne : domains.filter (· ≠ "") ≠ []) :
    ∃ line, invertedLine? domains = some line ∧
      line.toList = "@@||*".toList ++ '$' :: invertedOptions (domains.filter (· ≠ "")) := by
  unfold invertedLine?
  obtain ⟨item, items, hitems⟩ := List.exists_cons_of_ne_nil hne
  rw [hitems]
  have hlead (s : List Char) :
      "@@||*$document,domain=~".toList ++ s =
        "@@||*".toList ++
          '$' :: ("document".toList ++ ',' :: ("domain".toList ++ '=' :: '~' :: s)) := by
    rfl
  refine ⟨_, rfl, String.toList_append.trans ?_⟩
  unfold invertedOptions
  rw [restrictedText_eq (List.cons_ne_nil item items)]
  exact hlead _

/-! ## The rule -/

/-- What is in a list of domains is in the domains, or is one of two signs. -/
theorem notMem_restrictedText
    (h : ∀ item ∈ items, IsItem item)
    {c : Char}
    (hc : isNameChar c = false)
    (hsigns : c ∉ ['|', '~']) :
    c ∉ restrictedText items := by
  intro hmem
  rcases mem_restrictedText h c hmem with rfl | rfl | hname
  · exact hsigns (by decide)
  · exact hsigns (by decide)
  · exact Domain.ne_of_isNameChar hname hc rfl

theorem optionTexts_invertedOptions
    (h : ∀ item ∈ items, IsItem item) :
    NetworkRule.optionTexts (some (invertedOptions items)) =
      ["document".toList, "domain".toList ++ '=' :: restrictedText items] := by
  have hnotMem {c : Char} (hc : isNameChar c = false) (hsigns : c ∉ ['|', '~'])
      (hname : c ∉ "domain=".toList) : c ∉ "domain=".toList ++ restrictedText items :=
    fun hmem => (List.mem_append.mp hmem).elim hname (notMem_restrictedText h hc hsigns)
  have hlist : Text.splitEscaped ',' ("domain".toList ++ '=' :: restrictedText items) =
      ["domain".toList ++ '=' :: restrictedText items] :=
    Text.splitEscaped_of_notMem (hnotMem (by decide) (by decide) (by decide))
      (hnotMem (by decide) (by decide) (by decide))
  have hsplit := Text.splitEscaped_append_cons (show ',' ≠ '\\' by decide)
    (show "document".toList.getLast? ≠ some '\\' by decide)
    ("domain".toList ++ '=' :: restrictedText items)
  rw [hlist] at hsplit
  exact hsplit

/-- **The line is read as an exception** whose scope leaves the domains out. -/
theorem parse_invertedLine
    (version : HostVersion)
    {line : String}
    (hline : line.toList = "@@||*".toList ++ '$' :: invertedOptions items)
    (hne : items ≠ [])
    (h : ∀ item ∈ items, IsItem item) :
    NetworkRule.parse version line = .ok (invertedRule line items) := by
  have hparts : RuleParts.ofLine line.toList =
      { isException := true, pattern := "||*".toList, options := some (invertedOptions items) } := by
    have hhead : (invertedOptions items).head? ≠ some '/' :=
      fun hhead => absurd hhead (show some 'd' ≠ some '/' by decide)
    have hdollar : '$' ∉ "document,domain=".toList ++ restrictedText items :=
      fun hmem => (List.mem_append.mp hmem).elim (by decide)
        (notMem_restrictedText h (by decide) (by decide))
    rw [hline, RuleParts.ofLine_append_dollar (by decide) hhead (cutOptions?_of_notMem hdollar _)]
    rfl
  have hdomains := Modifier.parse_domains version (restrictedText_ne_nil hne)
    (ofList_restrictedText hne h)
  have hms : Modifier.parseAll version (NetworkRule.optionTexts (some (invertedOptions items))) =
      .ok [.page .document, .domains { permitted := [], restricted := items }] := by
    rw [optionTexts_invertedOptions h, Modifier.parseAll_eq_ok_iff]
    exact .cons (Modifier.parse_document version) (.cons hdomains .nil)
  exact NetworkRule.parse_documentException hparts (by decide) (by decide) toRegex_invertedFilter
    hms rfl

/-- Neither the lead of the line nor its domains hold the option that lists domains to leave
alone. -/
theorem occurs_denyallowSign_invertedLine
    (h : ∀ item ∈ items, IsItem item) :
    Text.occurs Canonical.denyallowSign ("@@||*".toList ++ '$' :: invertedOptions items) =
      false := by
  have hoccurs := Text.occurs_concat_append_cons (show '=' ∉ "denyallow".toList by decide)
    "@@||*$document,domain".toList (restrictedText items)
  rw [← Bool.not_eq_true]
  refine fun hmem => (hoccurs.mp hmem).elim (by decide) fun hmem => ?_
  exact notMem_restrictedText h (by decide) (by decide)
    ((Text.occurs_iff.mp hmem).subset (show '=' ∈ "denyallow".toList ++ ['='] by decide))

/-- **The line comes to this exception and nothing else.** -/
theorem outcomes_invertedLine
    (version : HostVersion)
    {line : String}
    (hline : line.toList = "@@||*".toList ++ '$' :: invertedOptions items)
    (hne : items ≠ [])
    (h : ∀ item ∈ items, IsItem item) :
    Rule.outcomes version line = [.ok (.network (invertedRule line items))] := by
  have hlast : ∀ c ∈ line.toList.getLast?, Text.isBlank c = false := by
    intro c hc
    have hsplit : line.toList = "@@||*$document,domain=".toList ++ restrictedText items := hline
    rw [hsplit, List.getLast?_append_of_ne_nil _ (restrictedText_ne_nil hne)] at hc
    rcases mem_restrictedText h c (List.mem_of_getLast? hc) with rfl | rfl | hname
    · decide
    · decide
    · exact Domain.isBlank_of_isNameChar hname
  refine Rule.outcomes_of_parse ?_ ?_ hlast ?_ (parse_invertedLine version hline hne h)
  · rw [hline, Text.byteLength_append]
    exact Nat.le_add_right_of_le (by decide)
  · rw [hline]
    rfl
  · rw [hline, occurs_denyallowSign_invertedLine h]

/-- The pattern of the line has no host, so its entry looks at every load. -/
theorem documentEntry_invertedRule
    (version : HostVersion)
    (line : String)
    (hne : items ≠ []) :
    (invertedRule line items).documentEntry version = invertedEntry items := by
  have hhost : Pattern.splitHost? "||*".toList = none := by decide
  unfold NetworkRule.documentEntry NetworkRule.pageTrigger NetworkRule.pageHost?
  dsimp only [invertedRule, documentException]
  rw [hhost]
  simp [hne, invertedEntry, Trigger.withScope, domainItems?, NetworkRule.caseFlag,
    NetworkRule.urlFilter, Trigger.ofFilter]

/-! ## The ruleset -/

/-- **What an inverted allowlist comes to.**  If some domain is not empty, and those that
are not are long enough and well written, there is a line and it is read as one exception.
Alone it gives no error and one entry, which acts on all pages but those on the domains,
in order and in small letters.  Among other lines it gives this entry if nothing is
discarded and no badfilter rule takes the exception out, and nothing that blocks or hides
comes after the entry. -/
theorem run_invertedLine
    (options : ConversionOptions)
    {domains : List String}
    (hsome : ∃ domain ∈ domains, domain ≠ "")
    (hdomains : ∀ domain ∈ domains, domain ≠ "" → IsItem domain) :
    Pattern.toRegex "||*" = .ok invertedFilter ∧
      ∃ line, invertedLine? domains = some line ∧
        let items := domains.filter (· ≠ "")
        let rule := invertedRule line items
        Rule.outcomes options.version line = [.ok (.network rule)] ∧
        ((∀ max ∈ options.maxJsonSize, (Ruleset.text [invertedEntry items]).utf8ByteSize ≤ max) →
          let conversion := (Conversion.run options (.always false) [line]).conversion
          conversion.errorsCount = 0 ∧ conversion.entriesCount = 1 ∧
            conversion.discardedCount = 0 ∧
            Ruleset.parse? conversion.json = some [invertedEntry items]) ∧
        ∀ lines, line ∈ lines →
          let conversion := (Conversion.run options (.always false) lines).conversion
          let emitted := Conversion.emitted options lines
          conversion.json =
              (if conversion.entriesCount = 0 then neutralRuleset
                else Ruleset.text (emitted.map SourcedEntry.entry)) ∧
            (conversion.discardedCount = 0 →
              (∃ sourced ∈ emitted, sourced.rule = .network rule ∧
                sourced.entry = invertedEntry items) ∨
              ∃ kill, .network kill ∈ (RuleBatch.ofLines options.version lines).rules ∧
                kill.isBadfilter ∧ kill.negates rule) ∧
            emitted.Pairwise fun earlier later =>
              earlier.rule = .network rule → later.entry.action.kind = .ignorePrevious := by
  have hne : domains.filter (· ≠ "") ≠ [] := by
    obtain ⟨domain, hdomain, hempty⟩ := hsome
    exact List.ne_nil_of_mem (List.mem_filter.mpr ⟨hdomain, decide_eq_true hempty⟩)
  have hitems : ∀ item ∈ domains.filter (· ≠ ""), IsItem item := by
    intro item hitem
    obtain ⟨hdomain, hempty⟩ := List.mem_filter.mp hitem
    exact hdomains item hdomain (of_decide_eq_true hempty)
  obtain ⟨line, hline, htext⟩ := exists_invertedLine? hne
  generalize domains.filter (· ≠ "") = items at hne hitems htext
  have houtcomes := outcomes_invertedLine options.version htext hne hitems
  have hbasic : (Rule.network (invertedRule line items)).isBasic :=
    NetworkRule.isBasic_documentException _ _ _ _
  have hentry : (invertedRule line items).toEntry options.version =
      some { group := .documentException, entry := invertedEntry items } := by
    rw [← documentEntry_invertedRule options.version line hne]
    exact NetworkRule.toEntry_documentException _ _ _ _ _
  have hplain : (invertedRule line items).isBadfilter = false := rfl
  have halone := @Conversion.run_singleton options line _ _ houtcomes hbasic hplain hentry
  refine ⟨toRegex_invertedFilter, line, hline, houtcomes, halone, ?_⟩
  intro lines hmem conversion emitted
  refine ⟨Conversion.json_run options lines, fun hdiscarded => ?_, ?_⟩
  · have hrule := RuleBatch.mem_rules_iff.mpr ⟨_, hmem, houtcomes ▸ List.mem_singleton_self _⟩
    exact (Conversion.mem_emitted_or_negated hrule hbasic hplain hentry hdiscarded).imp_left
      fun hemitted => ⟨_, hemitted, rfl, rfl⟩
  · refine (Assembled.pairwise_ignorePrevious_of_documentException _ _ _).imp_of_mem
      fun {earlier later} hearlier _ hlater hrule => hlater ?_
    have hsource := Assembled.toEntry_of_mem_emission (List.mem_of_mem_take hearlier)
    rw [hrule] at hsource
    have hgrouped := hsource.symm.trans hentry
    rw [Option.some.injEq] at hgrouped
    rw [hgrouped]

/-- Two domains, one with a capital, and an empty one between them; alone, and between a line
that blocks and one that hides. -/
theorem run_invertedLine_two :
    let options : ConversionOptions := { version := .v13, advanced := false, maxJsonSize := none }
    let domains := ["a.com", "", "B.net"]
    let line := "@@||*$document,domain=~a.com|~B.net"
    let lines := ["||ads.example^$important", line, "example.com##.ad"]
    (∃ domain ∈ domains, domain ≠ "") ∧ (∀ domain ∈ domains, domain ≠ "" → IsItem domain) ∧
      invertedLine? domains = some line ∧
      Ruleset.parse? (Conversion.run options (.always false) [line]).conversion.json =
        some
          [{ trigger :=
              { Trigger.ofFilter "^[^:]+://+([^:/]+\\.)?.*" with
                unlessDomain := some ["*a.com", "*b.net"] }
             action := .ofKind .ignorePrevious }] ∧
      (Conversion.emitted options lines).Pairwise fun earlier later =>
        earlier.rule = .network (invertedRule line ["a.com", "B.net"]) →
          later.entry.action.kind = .ignorePrevious := by
  intro options domains line lines
  have hsome : ∃ domain ∈ domains, domain ≠ "" := by decide
  have hdomains : ∀ domain ∈ domains, domain ≠ "" → IsItem domain := by decide
  have hline : invertedLine? domains = some line := by decide
  obtain ⟨-, line', hline', -, halone, hamong⟩ := run_invertedLine options hsome hdomains
  obtain rfl : line = line' := Option.some.inj (hline.symm.trans hline')
  obtain ⟨-, -, -, hjson⟩ := halone (by rintro max ⟨⟩)
  exact ⟨hsome, hdomains, hline, hjson, (hamong lines (by decide)).2.2⟩

end Allowlist
end FilterCompiler
