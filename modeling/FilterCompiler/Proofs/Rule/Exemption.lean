import FilterCompiler.Proofs.Pattern.Dialect
import FilterCompiler.Proofs.Rule.Canonical
import FilterCompiler.Proofs.Rule.Expansion

/-!
# What the lines of a domain exempt

A rule for all URLs that leaves domains alone becomes a rule and an exception for each of
the domains.  The pattern of such an exception names the domain behind `||` and does not
say where the host ends, so it matches the URLs whose host begins with the domain, or goes
on with it behind one of its dots (`lines_exempt`).  These are the hosts at and under the
domain, and others that only begin alike (`lines_exempt_foreignHost`).
-/

namespace FilterCompiler

/-! ## Hosts -/

/-- A URL with a path: a scheme, `://`, a host, which may begin with a dot too, and the path. -/
structure PathUrl where
  scheme : String
  host : String
  /-- What stands behind the first slash of the path. -/
  rest : String
  scheme_ne_empty : scheme ≠ ""
  colon_notMem_scheme : ':' ∉ scheme.toList
  host_ne_empty : host ≠ ""
  isNameChar_of_mem : ∀ c ∈ host.toList, Domain.isNameChar c

/-- The URL as it is written. -/
def PathUrl.text (url : PathUrl) : String := url.scheme ++ "://" ++ url.host ++ "/" ++ url.rest

theorem PathUrl.toList_text
    (url : PathUrl) :
    url.text.toList =
      url.scheme.toList ++ ':' :: '/' :: '/' :: (url.host.toList ++ '/' :: url.rest.toList) := by
  simp [text]

/-- The host begins with the domain, or goes on with it behind some labels. -/
def Domain.BeginsIn (domain host : String) : Prop :=
  ∃ labels, Pattern.IsLabels labels ∧ labels ++ domain.toList <+: host.toList

section Hosts

open Domain (HostName BeginsIn)

/-- **A domain stands behind a lead of a URL if and only if it begins in the host.** -/
theorem Domain.beginsIn_iff
    (domain : HostName)
    (url : PathUrl) :
    BeginsIn domain.text url.host ↔
      ∃ x z, url.text.toList = x ++ (domain.text.toList ++ z) ∧ Pattern.IsHostLead x := by
  rw [url.toList_text]
  constructor
  · rintro ⟨labels, hlabels, more, hmore⟩
    refine ⟨_, more ++ '/' :: url.rest.toList, ?_,
      Pattern.isHostLead_append_labels url.scheme_ne_empty url.colon_notMem_scheme hlabels⟩
    simp [← hmore]
  · rintro ⟨x, z, hurl, hlead⟩
    have hafter : (url.host.toList ++ '/' :: url.rest.toList).head? ≠ some '/' :=
      Pattern.head?_append_ne_slash url.host_ne_empty url.isNameChar_of_mem _
    obtain ⟨labels, hlabels, hcut⟩ :=
      Pattern.exists_labels_of_isHostLead url.colon_notMem_scheme hafter hurl hlead
    -- neither labels nor domains hold the slash behind the host
    have hnotMem : '/' ∉ labels ++ domain.text.toList := by
      rw [List.mem_append, not_or]
      exact ⟨fun hmem => hlabels.not_endsHost '/' hmem (.inl rfl), domain.notMem (by decide)⟩
    refine ⟨labels, hlabels,
      (Text.isPrefix_append_cons hnotMem url.host.toList url.rest.toList).mp ?_⟩
    rw [hcut, ← List.append_assoc]
    exact List.prefix_append _ _

/-! ## Patterns that begin with a domain -/

/-- The pattern of the line has a regex, and the regex matches the URL. -/
def PatternMatches (line url : String) : Prop :=
  ∃ regex, Pattern.toRegex (String.ofList (RuleParts.ofLine line.toList).pattern) = .ok regex ∧
    Regex.Matches regex url

variable {line : String} {domain : HostName}

/-- A pattern that begins with a domain matches only where the domain begins in the host. -/
theorem beginsIn_of_patternMatches
    (hpattern : '|' :: '|' :: domain.text.toList <+: (RuleParts.ofLine line.toList).pattern)
    {url : PathUrl}
    (h : PatternMatches line url.text) :
    BeginsIn domain.text url.host := by
  obtain ⟨rest, hrest⟩ := hpattern
  obtain ⟨regex, hregex, hmatches⟩ := h
  rw [Pattern.matches_iff_of_toRegex hregex, ← hrest] at hmatches
  exact (Domain.beginsIn_iff domain url).mpr (Pattern.exists_isHostLead_of_matches hmatches)

/-- The pattern that is a domain matches wherever the domain begins in the host. -/
theorem patternMatches_of_beginsIn
    (hpattern : (RuleParts.ofLine line.toList).pattern = '|' :: '|' :: domain.text.toList)
    {url : PathUrl}
    (h : BeginsIn domain.text url.host) :
    PatternMatches line url.text := by
  have hascii : ∀ c ∈ (String.ofList ('|' :: '|' :: domain.text.toList)).toList,
      Text.isAscii c = true := by
    rw [String.toList_ofList, List.forall_mem_cons, List.forall_mem_cons]
    exact ⟨rfl, rfl, fun c hc => Domain.isAscii_of_isNameChar (domain.isNameChar_of_mem c hc)⟩
  obtain ⟨regex, -, hregex, -⟩ := Pattern.exists_source_of_isAscii _ hascii
  refine ⟨regex, hpattern ▸ hregex, ?_⟩
  rw [Pattern.matches_iff_of_toRegex hregex, Pattern.matches_bareName_iff]
  exact (Domain.beginsIn_iff domain url).mp h

end Hosts

namespace Canonical

open Domain (HostName BeginsIn)

/-! ## The lines of a rule for all URLs -/

section Generic

variable {domains : List HostName} {options : List Char}

/-- Where the options list domains to leave alone, they list some of these. -/
def ListsAmong (domains : List HostName) (options : List Char) : Prop :=
  ∀ item ∈ Text.splitOn ',' options, Text.occurs denyallowSign item →
    ∃ listed, listed ≠ [] ∧ listed ⊆ domains ∧ item = denyallowItem listed

/-- The line is for all URLs as before, or it is an exception for one of the domains. -/
def IsAllOrExempts (domains : List HostName) (line : List Char) : Prop :=
  ['*'] <+: line ∨ ∃ domain ∈ domains, "@@||".toList ++ domain.text.toList <+: line

/-- Every line that takes the place of a cosmetic line has the same domains in front. -/
theorem isPrefix_of_mem_ofCut
    {line : List Char}
    {cut : Marker.Cut}
    (hline : Marker.find? line = some cut)
    {line' : List Char}
    (hmem : line' ∈ ofCut line cut) :
    cut.domains <+: line' := by
  have hsame : cut.domains <+: line := Marker.isPrefix_of_find? hline
  have hstyle : cut.domains <+: ofStyle cut := by
    -- only a sign behind the domains is dropped
    rw [ofStyle, Marker.Cut.rebuild, List.append_assoc,
      List.dropLast_append_of_ne_nil
        (List.append_ne_nil_of_left_ne_nil (Marker.text_ne_nil _) _),
      List.append_assoc]
    exact List.prefix_append _ _
  cases hmarker : cut.marker with
  | hide | hideException =>
      rw [ofCut_of_hiding (by simp [hmarker])] at hmem
      split at hmem
      · obtain ⟨args, rfl⟩ := exists_args_of_mem_ofCall hmem
        exact cut.isPrefix_rebuild _ _
      · split at hmem
        · exact List.mem_singleton.mp hmem ▸ hstyle
        · exact List.mem_singleton.mp hmem ▸ hsame
  | style | styleException =>
      simp only [ofCut, hmarker] at hmem
      split at hmem
      · exact List.mem_singleton.mp hmem ▸ hsame
      · obtain ⟨statement, -, rfl⟩ := List.mem_map.mp hmem
        exact cut.isPrefix_rebuild _ _
  | _ =>
      simp only [ofCut, hmarker] at hmem
      exact List.mem_singleton.mp hmem ▸ hsame

theorem isPrefix_of_mem_domainLines
    {isException : Bool}
    {path options domain line : List Char}
    (hmem : line ∈ domainLines isException path options domain) :
    (if isException then "||".toList else "@@||".toList) ++ domain <+: line := by
  have hline (lead rest : List Char) : lead ++ domain <+: lead ++ (domain ++ rest) := by
    rw [← List.append_assoc]
    exact List.prefix_append _ _
  simp only [domainLines, List.append_assoc] at hmem
  split at hmem
  · exact List.mem_singleton.mp hmem ▸ hline _ _
  · rcases List.mem_pair.mp hmem with rfl | rfl
    · exact hline _ _
    · exact hline _ _

/-- The options of a rule for all URLs are the end of its list of options. -/
theorem options_of_ofLine
    {parts : RuleParts}
    (hparts : RuleParts.ofLine ('*' :: '$' :: options) = parts)
    {remaining : List Char}
    (hoptions : parts.options = some remaining) :
    parts.isException = false ∧ ['*'] <+: parts.pattern ∧
      (remaining = options ∨ ∃ lead, options = lead ++ '$' :: remaining) := by
  obtain ⟨isException, pattern, found⟩ := parts
  obtain rfl : found = some remaining := hoptions
  obtain ⟨hexception, -⟩ := RuleParts.ofLine_eq_some_iff.mp hparts
  rw [cutException_of_unsigned (by simp), Prod.mk.injEq] at hexception
  obtain ⟨hexception, hline⟩ := hexception
  refine ⟨hexception.symm, ?_⟩
  match pattern with
  | [] => simp at hline
  | [c] =>
      simp only [List.cons_append, List.nil_append, List.cons.injEq] at hline
      exact ⟨⟨[], by rw [hline.1]; rfl⟩, .inl hline.2.2.symm⟩
  | c :: d :: lead =>
      simp only [List.cons_append, List.cons.injEq] at hline
      exact ⟨⟨d :: lead, by rw [hline.1]; rfl⟩, .inr ⟨lead, hline.2.2⟩⟩

/-- What stands behind the last sign of options lists no other domains. -/
theorem ListsAmong.of_append_dollar
    {lead remaining : List Char}
    (h : ListsAmong domains (lead ++ '$' :: remaining)) :
    ListsAmong domains remaining := by
  intro item hitem hsign
  rcases Text.mem_splitOn_append_cons (c := '$') (by decide) hitem lead with hmem | ⟨last, hmem⟩
  · exact h item hmem hsign
  · -- an item that lists domains has no sign of options in it
    obtain ⟨listed, -, -, hlast⟩ := h _ hmem
      ((Text.occurs_append_cons (by decide) _ _).mpr (.inr hsign))
    refine absurd ?_ (isOption_denyallowItem listed).dollar
    rw [← hlast]
    exact List.mem_append_right _ List.mem_cons_self

/-- The lines of a rule for all URLs that has no marker. -/
theorem isAllOrExempts_of_network
    (hlists : ListsAmong domains options) :
    ∃ canonical, ofNetworkLine ('*' :: '$' :: options) = .ok canonical ∧
      ∀ line ∈ canonical, IsAllOrExempts domains line := by
  have hsame : ∀ line ∈ [('*' :: '$' :: options)], IsAllOrExempts domains line :=
    List.forall_mem_singleton.mpr (.inl (List.prefix_append ['*'] _))
  rw [ofNetworkLine]
  split
  · exact ⟨_, rfl, hsame⟩
  dsimp only
  cases hremaining : (RuleParts.ofLine ('*' :: '$' :: options)).options with
  | none => exact ⟨_, rfl, hsame⟩
  | some remaining =>
      obtain ⟨hexception, hpattern, hoptions⟩ := options_of_ofLine rfl hremaining
      have hlists' : ListsAmong domains remaining := by
        rcases hoptions with rfl | ⟨lead, rfl⟩
        · exact hlists
        · exact hlists.of_append_dollar
      dsimp only
      split
      · exact ⟨_, rfl, hsame⟩
      cases hitem : (Text.splitOn ',' remaining).find? (Text.occurs denyallowSign ·) with
      | none => exact ⟨_, rfl, hsame⟩
      | some item =>
          obtain ⟨listed, hne, hlisted, rfl⟩ :=
            hlists' item (List.mem_of_find?_eq_some hitem) (List.find?_some hitem)
          dsimp only
          rw [ofDenyallow, any_denyallowDomains hne, if_neg Bool.false_ne_true,
            denyallowDomains_denyallowItem hne, hexception]
          refine ⟨_, rfl, List.forall_mem_cons.mpr ⟨.inl ?_, fun line hmem => .inr ?_⟩⟩
          · rw [if_neg Bool.false_ne_true, List.nil_append, List.append_assoc]
            exact hpattern.trans (List.prefix_append _ _)
          · rw [List.flatMap_map] at hmem
            obtain ⟨domain, hdomain, hmem⟩ := List.mem_flatMap.mp hmem
            exact ⟨domain, hlisted hdomain, isPrefix_of_mem_domainLines hmem⟩

/-- The lines of a rule for all URLs. -/
theorem isAllOrExempts_of_ofChars
    (hlists : ListsAmong domains options) :
    ∃ canonical, ofChars ('*' :: '$' :: options) = .ok canonical ∧
      ∀ line ∈ canonical, IsAllOrExempts domains line := by
  rw [ofChars]
  cases hmarker : Marker.find? ('*' :: '$' :: options) with
  | none => exact isAllOrExempts_of_network hlists
  | some cut =>
      refine ⟨_, rfl, fun line hmem => .inl ?_⟩
      refine List.IsPrefix.trans ?_ (isPrefix_of_mem_ofCut hmarker hmem)
      obtain ⟨-, hline, -⟩ := Marker.find?_eq_some_iff.mp hmarker
      rw [Marker.Cut.rebuild] at hline
      cases hdomains : cut.domains with
      | nil =>
          -- no marker begins like the line
          rw [hdomains] at hline
          cases hcut : cut.marker <;> rw [hcut] at hline <;> cases hline
      | cons c domains =>
          rw [hdomains, List.cons_append, List.cons_append, List.cons.injEq] at hline
          exact hline.1 ▸ List.prefix_append [c] _

/-- **What the exceptions of a rule for all URLs exempt.**  The rule becomes lines again,
and every exception among them belongs to a domain that is left alone: its pattern matches
no URL whose host does not begin with the domain, or go on with it behind some labels.
An exception whose pattern is the domain matches all of these URLs. -/
theorem lines_exempt
    {options : String}
    (hlists : ListsAmong domains options.toList) :
    ∃ canonical, lines ("*$" ++ options) = .ok canonical ∧
      ∀ line ∈ canonical, (RuleParts.ofLine line.toList).isException →
        ∃ domain ∈ domains,
          (∀ url : PathUrl, PatternMatches line url.text → BeginsIn domain.text url.host) ∧
          ((RuleParts.ofLine line.toList).pattern = '|' :: '|' :: domain.text.toList →
            ∀ url : PathUrl, PatternMatches line url.text ↔ BeginsIn domain.text url.host) := by
  obtain ⟨canonical, hcanonical, hlines⟩ := isAllOrExempts_of_ofChars hlists
  refine ⟨canonical.map String.ofList, ?_, ?_⟩
  · rw [lines, String.toList_append]
    exact congrArg (Except.map _) hcanonical
  rw [List.forall_mem_map]
  intro line hmem hexception
  rw [String.toList_ofList] at hexception
  rcases hlines line hmem with hall | ⟨domain, hdomain, rest, rfl⟩
  · -- what is for all URLs is no exception
    rw [RuleParts.isException_ofLine, cutException_of_unsigned] at hexception
    · exact absurd hexception Bool.false_ne_true
    · rintro ⟨rest, rfl⟩
      obtain ⟨more, hmore⟩ := hall
      cases hmore
  · have hsign : cutException ("@@||".toList ++ domain.text.toList ++ rest) =
        (true, '|' :: '|' :: domain.text.toList ++ rest) := rfl
    have hdollar : '$' ∉ '|' :: '|' :: domain.text.toList := by
      simpa using domain.notMem (by decide)
    have hpattern : '|' :: '|' :: domain.text.toList <+: (RuleParts.ofLine
        (String.ofList ("@@||".toList ++ domain.text.toList ++ rest)).toList).pattern := by
      rw [String.toList_ofList]
      exact RuleParts.isPrefix_pattern hsign hdollar
    exact ⟨domain, hdomain, fun url => beginsIn_of_patternMatches hpattern,
      fun hbare url => ⟨beginsIn_of_patternMatches hpattern, patternMatches_of_beginsIn hbare⟩⟩

/-- Domains in the path of a URL are not exempted. -/
theorem lines_exempt_path :
    ListsAmong
        [⟨"a.com", by decide, List.all_eq_true.mp rfl, by decide⟩,
          ⟨"b.com", by decide, List.all_eq_true.mp rfl, by decide⟩]
        "script,denyallow=a.com|b.com,domain=x.com".toList ∧
      ∃ canonical, lines ("*$" ++ "script,denyallow=a.com|b.com,domain=x.com") = .ok canonical ∧
        ∀ line ∈ canonical, (RuleParts.ofLine line.toList).isException →
          ¬ PatternMatches line "https://c.example/a.com/?b.com" := by
  have hlists : ListsAmong
      [⟨"a.com", by decide, List.all_eq_true.mp rfl, by decide⟩,
        ⟨"b.com", by decide, List.all_eq_true.mp rfl, by decide⟩]
      "script,denyallow=a.com|b.com,domain=x.com".toList := by
    have hsplit : Text.splitOn ',' "script,denyallow=a.com|b.com,domain=x.com".toList =
        ["script".toList, "denyallow=a.com|b.com".toList, "domain=x.com".toList] := by
      decide +kernel
    rw [ListsAmong, hsplit, List.forall_mem_cons, List.forall_mem_cons, List.forall_mem_singleton]
    exact ⟨fun hsign => absurd hsign (by decide),
      fun _ => ⟨_, List.cons_ne_nil _ _, List.Subset.refl _, by decide⟩,
      fun hsign => absurd hsign (by decide)⟩
  obtain ⟨canonical, hcanonical, hexempt⟩ := lines_exempt hlists
  refine ⟨hlists, canonical, hcanonical, fun line hmem hexception hmatches => ?_⟩
  obtain ⟨domain, hdomain, hbegins, -⟩ := hexempt line hmem hexception
  obtain ⟨labels, -, hlead⟩ := hbegins
    { scheme := "https"
      host := "c.example"
      rest := "a.com/?b.com"
      scheme_ne_empty := by decide
      colon_notMem_scheme := by decide
      host_ne_empty := by decide
      isNameChar_of_mem := List.all_eq_true.mp rfl } hmatches
  have hoccurs : Text.occurs domain.text.toList "c.example".toList :=
    Text.occurs_iff.mpr ((List.suffix_append _ _).isInfix.trans hlead.isInfix)
  rcases List.mem_pair.mp hdomain with rfl | rfl <;> exact absurd hoccurs (by decide)

/-- A host that is not at or under the domain is exempted if it begins like it. -/
theorem lines_exempt_foreignHost :
    lines "*$script,denyallow=a.com,domain=x.com" =
        .ok ["*$script,domain=x.com", "@@||a.com$script,domain=x.com"] ∧
      (RuleParts.ofLine "@@||a.com$script,domain=x.com".toList).isException ∧
      ¬ Domain.isWithin "a.community" "a.com" ∧
      PatternMatches "@@||a.com$script,domain=x.com" "https://a.community/" := by
  let domain : HostName := ⟨"a.com", by decide, List.all_eq_true.mp rfl, by decide⟩
  let url : PathUrl :=
    { scheme := "https"
      host := "a.community"
      rest := ""
      scheme_ne_empty := by decide
      colon_notMem_scheme := by decide
      host_ne_empty := by decide
      isNameChar_of_mem := List.all_eq_true.mp rfl }
  have hbegins : BeginsIn domain.text url.host := ⟨[], .inl rfl, by decide⟩
  have hpattern : (RuleParts.ofLine "@@||a.com$script,domain=x.com".toList).pattern =
      '|' :: '|' :: domain.text.toList := by
    decide
  exact ⟨by decide +kernel, by decide, by decide +kernel, patternMatches_of_beginsIn hpattern hbegins⟩

end Generic

end Canonical
end FilterCompiler
