import FilterCompiler.Proofs.Conversion.NewerHost
import FilterCompiler.Proofs.Rule.Expansion
import FilterCompiler.Proofs.Rule.LineCase
import FilterCompiler.Proofs.Rule.Rewriting
import FilterCompiler.Proofs.Rule.WellFormed
import FilterCompiler.Proofs.Ruleset.LetterCase

/-!
# What the host gets of a line

The host gets the basic rules of a line in canonical form; `hostRules` are those rules
without what a ruleset does not hang on.  Lines that are the same but for the letter
case of the entries of domain lists have canonical lines with the same `hostRules`
(`canonicalRules_ofChars_congr`).  Calls, snippets and styles need no attention there:
whatever they become, no rule of theirs goes to the host (`hostRules_eq_nil`).
-/

namespace FilterCompiler

theorem CosmeticRule.kind?_of_ofCut
    [DomainEncoder]
    {version : HostVersion}
    {line : String}
    {cut : Marker.Cut}
    {rule : CosmeticRule}
    (h : ofCut version line cut = .ok rule) :
    cut.marker.kind? = some rule.kind := by
  obtain ⟨-, kind, isScriptlet, scope, hkind, -, -, hvalid⟩ := ofCut_eq_ok_iff.mp h
  obtain ⟨-, -, rfl⟩ := validate_eq_ok_iff.mp hvalid
  exact hkind

/-- Rewritten lines hide nothing. -/
theorem Canonical.Rewriting.kind?_marker_ne
    (isException : Bool)
    (rewriting : Rewriting) :
    (rewriting.marker isException).kind? ≠ some .hiding := by
  cases rewriting <;> cases isException <;> decide

namespace Rule

/-- The rules that the host gets of a line in canonical form, without their texts and
the letter case of their domains. -/
def hostRules [DomainEncoder] (version : HostVersion) (line : List Char) : List Rule :=
  ((rulesOf version (String.ofList line)).filter isBasic).map lowered

/-- The rules that the host gets of the lines in canonical form of a line. -/
def canonicalRules
    [DomainEncoder]
    (version : HostVersion)
    (canonical : Except LineError (List (List Char))) :
    List Rule :=
  (canonical.toOption.getD []).flatMap (hostRules version)

/-- The rule of a line whose marker has been looked for. -/
def seenLine [DomainEncoder] (version : HostVersion) (line : List Char) :
    Option Marker.Cut → Option Rule
  | some cut =>
      (seen CosmeticRule.lowered (CosmeticRule.ofCut version (String.ofList line) cut)).map cosmetic
  | none =>
      (seen NetworkRule.lowered (NetworkRule.parse version (String.ofList line))).map network

theorem hostRules_eq
    [DomainEncoder]
    (version : HostVersion)
    (line : List Char) :
    hostRules version line =
      if isSkipped line ∨ Text.byteLength line < 3 then []
      else (seenLine version line (Marker.find? line)).toList.filter isBasic := by
  have hfilter (rules : List Rule) :
      (rules.filter isBasic).map lowered = (rules.map lowered).filter isBasic := by
    rw [List.filter_map]
    exact congrArg _ (List.filter_congr fun rule _ => (isBasic_lowered rule).symm)
  rw [hostRules, hfilter, rulesOf, outcome?, ofLine, String.toList_ofList]
  by_cases hskipped : isSkipped line
  · simp [hskipped]
  by_cases hshort : Text.byteLength line < 3
  · simp [hskipped, hshort, Except.toOption]
  rw [if_neg hskipped, if_neg hshort, if_neg (not_or.mpr ⟨hskipped, hshort⟩)]
  congr 1
  cases Marker.find? line with
  | none =>
      unfold seenLine
      dsimp only
      cases NetworkRule.parse version (String.ofList line) <;> rfl
  | some cut =>
      unfold seenLine
      dsimp only
      cases CosmeticRule.ofCut version (String.ofList line) cut <;> rfl

variable {version : HostVersion} {line line' : List Char}

/-- Lines that are the same but for letter case are skipped together. -/
theorem hostRules_congr
    [DomainEncoder]
    (hcase : Text.SameButCase line line')
    (h : seenLine version line (Marker.find? line) =
      seenLine version line' (Marker.find? line')) :
    hostRules version line = hostRules version line' := by
  have hskipped : isSkipped line = isSkipped line' := by
    rw [← isSkipped_lower, hcase, isSkipped_lower]
  rw [hostRules_eq, hostRules_eq, hskipped, hcase.byteLength_eq, h]

/-! ## Cosmetic lines -/

/-- **Only rules that hide elements go to the host.** -/
theorem hostRules_eq_nil
    [DomainEncoder]
    {cut : Marker.Cut}
    (hline : Marker.find? line = some cut)
    (hkind : cut.marker.kind? ≠ some .hiding) :
    hostRules version line = [] := by
  have hbasic (rule : Rule) (hrule : seenLine version line (some cut) = some rule) :
      rule.isBasic = false := by
    rw [seenLine, Option.map_eq_some_iff] at hrule
    obtain ⟨view, hview, rfl⟩ := hrule
    cases hcut : CosmeticRule.ofCut version (String.ofList line) cut with
    | error e => simp [hcut] at hview
    | ok rule =>
        rw [hcut, seen_ok, Option.some_inj] at hview
        have hrule : rule.kind ≠ .hiding := fun h => hkind (h ▸ CosmeticRule.kind?_of_ofCut hcut)
        rw [← hview]
        change (lowered (.cosmetic rule)).isBasic = false
        rw [isBasic_lowered]
        simp [isBasic, CosmeticRule.isNative, hrule]
  rw [hostRules_eq, hline]
  split
  · rfl
  · cases hseen : seenLine version line (some cut) with
    | none => rfl
    | some rule => simp [hbasic rule hseen]

theorem hostRules_cosmetic_congr
    [DomainEncoder]
    [DomainEncoder.IsCaseBlind]
    {domains domains' content : List Char}
    {marker : Marker}
    (hline : Marker.find? line = some { domains, marker, content })
    (hline' : Marker.find? line' = some { domains := domains', marker, content })
    (h : SameDomains domains domains') :
    hostRules version line = hostRules version line' := by
  refine hostRules_congr (Marker.sameButCase_of_find? hline hline' h.sameButCase) ?_
  rw [hline, hline', seenLine, seenLine,
    CosmeticRule.seen_ofCut_congr version _ (String.ofList line') h.seen_parse content]

/-- A script rule takes the place of a call or of a statement. -/
theorem hostRules_callLine
    [DomainEncoder]
    {cut : Marker.Cut}
    (hline : Marker.find? line = some cut)
    (hcut : cut.marker.text.toList.head? = some '#')
    (args : List (List Char)) :
    hostRules version (Canonical.callLine cut args) = [] := by
  obtain ⟨content, hfind⟩ := Canonical.find?_callLine hline hcut args
  exact hostRules_eq_nil hfind (Canonical.Rewriting.kind?_marker_ne _ .call)

/-- A style rule takes the place of a style. -/
theorem hostRules_ofStyle
    [DomainEncoder]
    {cut : Marker.Cut}
    (hline : Marker.find? line = some cut)
    (hcut : cut.marker.text.toList.head? = some '#')
    (hcontent : cut.content ≠ []) :
    hostRules version (Canonical.ofStyle cut) = [] := by
  obtain ⟨content, hfind⟩ := Canonical.find?_ofStyle hline hcut hcontent
  exact hostRules_eq_nil hfind (Canonical.Rewriting.kind?_marker_ne _ .style)

theorem hostRules_ofCall
    [DomainEncoder]
    {cut : Marker.Cut}
    (hline : Marker.find? line = some cut)
    (hcut : cut.marker.text.toList.head? = some '#') :
    (Canonical.ofCall line cut).flatMap (hostRules version) = [] := by
  by_cases hitems : Canonical.betweenParentheses line = []
  · rw [Canonical.ofCall_eq_nil hitems, List.flatMap_nil]
  · rw [Canonical.ofCall_eq_singleton hitems, List.flatMap_singleton,
      hostRules_callLine hline hcut]

theorem hostRules_ofSnippet
    [DomainEncoder]
    {cut : Marker.Cut}
    (hline : Marker.find? line = some cut)
    (hcut : cut.marker.text.toList.head? = some '#') :
    (Canonical.ofSnippet cut).flatMap (hostRules version) = [] := by
  rw [Canonical.ofSnippet, List.flatMap_map, List.flatMap_eq_nil_iff]
  exact fun statement _ => hostRules_callLine hline hcut _

/-- The sign of a style is in the line if it is in the content. -/
theorem occurs_styleSign_iff
    {domains content : List Char}
    {marker : Marker}
    (hline : Marker.find? line = some { domains, marker, content })
    (hmarker : marker = .hide ∨ marker = .hideException)
    (hstyle : ¬ Text.occurs Canonical.styleSign (Text.lower domains)) :
    Text.occurs Canonical.styleSign line ↔ Text.occurs Canonical.styleSign content := by
  rw [(Marker.find?_eq_some_iff.mp hline).2.1, Marker.Cut.rebuild, List.append_assoc,
    Canonical.occurs_styleSign_rebuild hmarker,
    or_iff_right (mt (Text.occurs_lower (by decide)) hstyle)]

/-- **Cosmetic lines that are the same but for the case of their domains.** -/
theorem hostRules_ofCut_congr
    [DomainEncoder]
    [DomainEncoder.IsCaseBlind]
    {domains domains' content : List Char}
    {marker : Marker}
    (hline : Marker.find? line = some { domains, marker, content })
    (hline' : Marker.find? line' = some { domains := domains', marker, content })
    (h : SameDomains domains domains')
    (hstyle : ¬ Text.occurs Canonical.styleSign (Text.lower domains)) :
    (Canonical.ofCut line { domains, marker, content }).flatMap (hostRules version) =
      (Canonical.ofCut line' { domains := domains', marker, content }).flatMap
        (hostRules version) := by
  have hplain : [line].flatMap (hostRules version) = [line'].flatMap (hostRules version) := by
    rw [List.flatMap_singleton, List.flatMap_singleton, hostRules_cosmetic_congr hline hline' h]
  by_cases hmarker : marker = .hide ∨ marker = .hideException
  · have hhash : marker.text.toList.head? = some '#' := by rcases hmarker with rfl | rfl <;> rfl
    have hstyle' : ¬ Text.occurs Canonical.styleSign (Text.lower domains') :=
      h.sameButCase ▸ hstyle
    simp only [@Canonical.ofCut_of_hiding { domains, marker, content } hmarker,
      @Canonical.ofCut_of_hiding { domains := domains', marker, content } hmarker,
      occurs_styleSign_iff hline hmarker hstyle, occurs_styleSign_iff hline' hmarker hstyle']
    split
    · rw [hostRules_ofCall hline hhash, hostRules_ofCall hline' hhash]
    · split
      · next hsign =>
          have hcontent : content ≠ [] := by
            rintro rfl
            exact absurd hsign (by decide)
          rw [List.flatMap_singleton, List.flatMap_singleton,
            hostRules_ofStyle hline hhash hcontent, hostRules_ofStyle hline' hhash hcontent]
      · exact hplain
  · have hhash : Marker.style.text.toList.head? = some '#' ∧
        Marker.styleException.text.toList.head? = some '#' := by decide
    simp only [Canonical.ofCut]
    split
    · exact absurd (.inl rfl) hmarker
    · exact absurd (.inr rfl) hmarker
    · split
      · exact hplain
      · rw [hostRules_ofSnippet hline hhash.1, hostRules_ofSnippet hline' hhash.1]
    · split
      · exact hplain
      · rw [hostRules_ofSnippet hline hhash.2, hostRules_ofSnippet hline' hhash.2]
    · exact hplain

/-! ## Network lines -/

/-- Options that stand behind the sign of options: that sign is the last one of the line that
may introduce options, and other options may follow. -/
structure IsOptionList (options : List Char) : Prop where
  cut : cutOptions? (some '$') options = none
  head : options.head? ≠ some '/'
  last : options.getLast? ≠ some '\\'

namespace IsOptionList

variable {options : List Char}

theorem of_sameButCase
    {options' : List Char}
    (h : IsOptionList options)
    (hcase : Text.SameButCase options options') :
    IsOptionList options' where
  cut := by
    have hdollar : (some '$').map Text.small = some '$' := by decide
    have hcut := h.cut
    rwa [← cutOptions?_lower, hdollar, hcase, ← hdollar, cutOptions?_lower] at hcut
  head := mt (hcase.head?_eq_some_iff (by decide)).mpr h.head
  last := mt (hcase.getLast?_eq_some_iff (by decide)).mpr h.last

/-- The mark of an important rule may follow. -/
theorem append_important
    (h : IsOptionList options) :
    IsOptionList (options ++ ",important".toList) where
  cut := (cutOptions?_append_comma options "important".toList).mpr ⟨h.cut, by decide⟩
  head := by
    rw [List.head?_append]
    cases hhead : options.head? with
    | none => decide
    | some c => rw [Option.some_or, ← hhead]; exact h.head
  last := by
    rw [List.getLast?_append_of_ne_nil _ (by decide)]
    decide

/-- Other options may be left out. -/
theorem joinWith_filter
    (hplain : HasPlainItems options)
    (hcut : cutOptions? (some '$') options = none)
    (p : List Char → Bool) :
    IsOptionList (Text.joinWith [','] ((Text.splitOn ',' options).filter p)) where
  cut := by
    rw [← Text.joinWith_splitOn ',' options, cutOptions?_joinWith (by decide)] at hcut
    rw [cutOptions?_joinWith (by decide)]
    exact fun item hitem => hcut item (List.mem_filter.mp hitem).1
  head := Text.head?_joinWith_ne (by decide) fun item hitem =>
    hplain.head item (List.mem_filter.mp hitem).1
  last := Text.getLast?_joinWith_ne (by decide) fun item hitem =>
    hplain.last item (List.mem_filter.mp hitem).1

theorem ofLine_append_dollar
    {first : List Char}
    (h : IsOptionList options)
    (hfirst : first.getLast? ≠ some '\\') :
    RuleParts.ofLine (first ++ '$' :: options) =
      { isException := (cutException first).1
        pattern := (cutException first).2
        options := some options } :=
  RuleParts.ofLine_append_dollar hfirst h.head h.cut

end IsOptionList

/-- Network lines with the same pattern are read alike; what holds a marker that hides
nothing is no rule for the host. -/
theorem hostRules_network_congr
    [DomainEncoder]
    [DomainEncoder.IsCaseBlind]
    {pattern options options' : List Char}
    {isException : Bool}
    (hline : RuleParts.ofLine line = { isException, pattern, options := some options })
    (hline' : RuleParts.ofLine line' = { isException, pattern, options := some options' })
    (h : SameOptions options options')
    (hfind : ∀ cut, Marker.find? line = some cut → cut.marker.kind? ≠ some .hiding)
    (hfind' : ∀ cut, Marker.find? line' = some cut → cut.marker.kind? ≠ some .hiding) :
    hostRules version line = hostRules version line' := by
  have hcase := RuleParts.sameButCase_of_ofLine hline hline' h.sameButCase
  have hiff := Marker.find?_eq_none_iff_of_sameButCase hcase
  cases hcut : Marker.find? line with
  | some cut =>
      obtain ⟨cut', hcut'⟩ := Option.ne_none_iff_exists'.mp (mt hiff.mpr (by simp [hcut]))
      rw [hostRules_eq_nil hcut (hfind cut hcut), hostRules_eq_nil hcut' (hfind' cut' hcut')]
  | none =>
      have hne {line : List Char} {parts : RuleParts} (hline : RuleParts.ofLine line = parts)
          (hparts : parts.options.isSome) : String.ofList line ≠ "" := by
        intro hempty
        rw [← String.toList_eq_nil_iff, String.toList_ofList] at hempty
        rw [← hline, hempty] at hparts
        cases hparts
      refine hostRules_congr hcase ?_
      rw [hcut, hiff.mp hcut, seenLine, seenLine, NetworkRule.seen_parse version (hne hline rfl),
        NetworkRule.seen_parse version (hne hline' rfl), String.toList_ofList,
        String.toList_ofList, hline, hline', Modifier.seen_parseAll_congr version h.optionTexts]

/-- The same with the sign of options in its place. -/
theorem hostRules_dollar_congr
    [DomainEncoder]
    [DomainEncoder.IsCaseBlind]
    {first options options' : List Char}
    (hfirst : first.getLast? ≠ some '\\')
    (hoptions : IsOptionList options)
    (h : SameOptions options options')
    (hfind : ∀ cut, Marker.find? (first ++ '$' :: options) = some cut →
      cut.marker.kind? ≠ some .hiding)
    (hfind' : ∀ cut, Marker.find? (first ++ '$' :: options') = some cut →
      cut.marker.kind? ≠ some .hiding) :
    hostRules version (first ++ '$' :: options) = hostRules version (first ++ '$' :: options') := by
  exact hostRules_network_congr (hoptions.ofLine_append_dollar hfirst)
    ((hoptions.of_sameButCase h.sameButCase).ofLine_append_dollar hfirst) h hfind hfind'

/-- A rule of opposite polarity for one target. -/
theorem hostRules_domainLine_congr
    [DomainEncoder]
    [DomainEncoder.IsCaseBlind]
    {lead target trail options options' : List Char}
    (hlead : lead = "||".toList ∨ lead = "@@||".toList)
    (htarget : target.getLast? ≠ some '\\')
    (htrail : trail = [] ∨ trail = ",important".toList)
    (hoptions : IsOptionList options)
    (h : SameOptions options options') :
    hostRules version (lead ++ target ++ ['$'] ++ options ++ trail) =
      hostRules version (lead ++ target ++ ['$'] ++ options' ++ trail) := by
  have hfirst : (lead ++ target).getLast? ≠ some '\\' := by
    rw [List.getLast?_append]
    cases hlast : target.getLast? with
    | some c => rwa [Option.some_or, ← hlast]
    | none => rcases hlead with rfl | rfl <;> decide
  obtain ⟨hsame, htrailed⟩ : SameOptions (options ++ trail) (options' ++ trail) ∧
      IsOptionList (options ++ trail) := by
    rcases htrail with rfl | rfl
    · rw [List.append_nil, List.append_nil]
      exact ⟨h, hoptions⟩
    · exact ⟨.append h hoptions.last (.same _), hoptions.append_important⟩
  have hfind (options : List Char) (cut : Marker.Cut)
      (hcut : Marker.find? (lead ++ target ++ '$' :: options) = some cut) :
      cut.marker.kind? ≠ some .hiding := by
    have hnetwork := (Marker.find?_eq_some_iff.mp hcut).1
    rcases hlead with rfl | rfl <;> simp [Marker.isNetworkLine] at hnetwork
  have hline (options : List Char) :
      lead ++ target ++ ['$'] ++ options ++ trail =
        lead ++ target ++ '$' :: (options ++ trail) := by
    simp
  rw [hline, hline]
  exact hostRules_dollar_congr hfirst htrailed hsame (hfind _) (hfind _)

theorem hostRules_domainLines_congr
    [DomainEncoder]
    [DomainEncoder.IsCaseBlind]
    {path options options' domain : List Char}
    (isException : Bool)
    (hpath : path.getLast? ≠ some '\\')
    (hdomain : domain.getLast? ≠ some '\\')
    (hoptions : IsOptionList options)
    (h : SameOptions options options') :
    (Canonical.domainLines isException path options domain).flatMap (hostRules version) =
      (Canonical.domainLines isException path options' domain).flatMap (hostRules version) := by
  have hline {target : List Char} (htarget : target.getLast? ≠ some '\\') :=
    @hostRules_domainLine_congr version _ _
      (if isException then "||".toList else "@@||".toList) target
      (if isException then ",important".toList else []) options options'
      (by cases isException <;> simp) htarget (by cases isException <;> simp) hoptions h
  have hlast (separator : List Char) (hne : path ≠ []) :
      (domain ++ separator ++ path).getLast? ≠ some '\\' := by
    rwa [List.getLast?_append_of_ne_nil _ hne]
  simp only [Canonical.domainLines]
  split
  · simp only [List.flatMap_singleton]
    exact hline hdomain
  · next hne =>
      rw [not_or] at hne
      simp only [List.flatMap_cons, List.flatMap_nil, List.append_nil]
      rw [hline (hlast ['/'] hne.1), hline (hlast ['/', '*', '/'] hne.1)]

/-- A marker of hiding rules holds neither the sign of options nor a comma, so leaving out
options makes none. -/
theorem kind?_ne_of_find?_filter
    {first options : List Char}
    {p : List Char → Bool}
    {cut : Marker.Cut}
    (hline : Marker.find? (first ++ '$' :: options) = none)
    (hsize : 2 < Text.byteLength (first ++ '$' :: options))
    (hcut : Marker.find?
      (first ++ '$' :: Text.joinWith [','] ((Text.splitOn ',' options).filter p)) = some cut) :
    cut.marker.kind? ≠ some .hiding := by
  intro hkind
  obtain ⟨hnetwork, hrebuild, -⟩ := Marker.find?_eq_some_iff.mp hcut
  have hsigns : '$' ∉ cut.marker.text.toList ∧ ',' ∉ cut.marker.text.toList ∧
      cut.marker.text.toList ≠ [] := by
    cases hmarker : cut.marker <;> rw [hmarker] at hkind <;> first | decide | cases hkind
  have hmarker : Text.occurs cut.marker.text.toList (first ++ '$' :: options) := by
    have hoccurs := Text.occurs_iff.mpr ⟨cut.domains, cut.content, hrebuild.symm⟩
    rw [Text.occurs_append_cons hsigns.1] at hoccurs ⊢
    exact hoccurs.imp_right (Text.occurs_of_occurs_joinWith_filter hsigns.2.1 hsigns.2.2)
  rw [Marker.find?, Marker.isNetworkLine_append_dollar hsize hnetwork, if_neg Bool.false_ne_true,
    Marker.search?_eq_none_iff] at hline
  exact hline cut.marker (Text.occurs_iff.mp hmarker)

/-- The rule itself, without the item that holds the sign. -/
theorem hostRules_filter_congr
    [DomainEncoder]
    [DomainEncoder.IsCaseBlind]
    {first options options' item : List Char}
    (hfirst : first.getLast? ≠ some '\\')
    (hplain : HasPlainItems options)
    (hcut : cutOptions? (some '$') options = none)
    (h : SameOptions options options')
    (hsign : Text.occurs Canonical.denyallowSign item)
    (hfind : Marker.find? (first ++ '$' :: options) = none)
    (hsize : 2 < Text.byteLength (first ++ '$' :: options)) :
    hostRules version
        (first ++ '$' :: Text.joinWith [','] ((Text.splitOn ',' options).filter (· ≠ item))) =
      hostRules version
        (first ++ '$' :: Text.joinWith [','] ((Text.splitOn ',' options').filter (· ≠ item))) := by
  have hcase : Text.SameButCase (first ++ '$' :: options) (first ++ '$' :: options') :=
    .append rfl (h.sameButCase.cons '$')
  have hfind' : Marker.find? (first ++ '$' :: options') = none :=
    (Marker.find?_eq_none_iff_of_sameButCase hcase).mp hfind
  have hsize' : 2 < Text.byteLength (first ++ '$' :: options') := by
    rwa [← hcase.byteLength_eq]
  exact hostRules_dollar_congr hfirst (.joinWith_filter hplain hcut _)
    (h.joinWith_filter hplain.last hsign) (fun _ => kind?_ne_of_find?_filter hfind hsize)
    (fun _ => kind?_ne_of_find?_filter hfind' hsize')

/-- **The lines of a rule whose options list domains to leave alone.** -/
theorem canonicalRules_ofDenyallow_congr
    [DomainEncoder]
    [DomainEncoder.IsCaseBlind]
    {pattern options options' item : List Char}
    {isException : Bool}
    (hline : RuleParts.ofLine line = { isException, pattern, options := some options })
    (hfind : Marker.find? line = none)
    (h : SameOptions options options')
    (hplain : HasPlainItems options)
    (hsize : 2 < Text.byteLength line)
    (hitem : item ∈ Text.splitOn ',' options)
    (hsign : Text.occurs Canonical.denyallowSign item) :
    canonicalRules version (Canonical.ofDenyallow { isException, pattern, options := some options }
        (Text.splitOn ',' options) item) =
      canonicalRules version (Canonical.ofDenyallow
        { isException, pattern, options := some options' } (Text.splitOn ',' options') item) := by
  obtain ⟨-, hpattern, -, hcut⟩ := RuleParts.ofLine_eq_some_iff.mp hline
  obtain ⟨hbody, -, hfirst⟩ := RuleParts.eq_append_of_ofLine hline
  have hpath := Canonical.getLast?_patternPath_ne hpattern
  rw [Canonical.ofDenyallow, Canonical.ofDenyallow]
  dsimp only
  split
  · rfl
  · simp only [canonicalRules, Except.toOption, Option.getD_some, List.flatMap_cons]
    congr 1
    · rw [List.append_assoc _ ['$'], List.append_assoc _ ['$']]
      exact hostRules_filter_congr hfirst hplain hcut h hsign (hbody ▸ hfind) (hbody ▸ hsize)
    · rw [List.flatMap_assoc, List.flatMap_assoc]
      refine List.flatMap_congr fun domain hdomain => ?_
      exact hostRules_domainLines_congr isException hpath
        (hplain.domains item hitem hsign domain hdomain) (.joinWith_filter hplain hcut _)
        (h.joinWith_filter hplain.last hsign)

/-- **Network lines that are the same but for the case of their domains.** -/
theorem canonicalRules_ofNetworkLine_congr
    [DomainEncoder]
    [DomainEncoder.IsCaseBlind]
    {pattern options options' : List Char}
    {isException : Bool}
    (hfind : Marker.find? line = none)
    (hline : RuleParts.ofLine line = { isException, pattern, options := some options })
    (hline' : RuleParts.ofLine line' = { isException, pattern, options := some options' })
    (h : SameOptions options options')
    (hdenyallow : Text.occurs Canonical.denyallowSign options → HasPlainItems options) :
    canonicalRules version (Canonical.ofNetworkLine line) =
      canonicalRules version (Canonical.ofNetworkLine line') := by
  have hcase := RuleParts.sameButCase_of_ofLine hline hline' h.sameButCase
  have hfind' : Marker.find? line' = none :=
    (Marker.find?_eq_none_iff_of_sameButCase hcase).mp hfind
  have hplain : canonicalRules version (.ok [line]) = canonicalRules version (.ok [line']) := by
    simp only [canonicalRules, Except.toOption, Option.getD_some, List.flatMap_singleton]
    exact hostRules_network_congr hline hline' h (by simp [hfind]) (by simp [hfind'])
  have hdollar : '$' ∉ Canonical.denyallowSign := by decide
  have hsigns : Text.occurs Canonical.denyallowSign line ↔
      Text.occurs Canonical.denyallowSign line' := by
    rw [RuleParts.occurs_iff_of_ofLine hdollar hline,
      RuleParts.occurs_iff_of_ofLine hdollar hline', h.occurs_iff (.inl rfl)]
  simp only [Canonical.ofNetworkLine, hline, hline', hsigns, h.occurs_iff (.inr rfl)]
  split
  · exact hplain
  split
  · exact hplain
  by_cases hsign : Text.occurs Canonical.denyallowSign options
  · have hitems := hdenyallow hsign
    have hsize : 2 < Text.byteLength line :=
      Nat.lt_of_lt_of_le (by decide)
        (Text.byteLength_le_of_occurs
          ((RuleParts.occurs_iff_of_ofLine hdollar hline).mpr (.inr hsign)))
    rw [← SameItem.find?_eq (h.splitOn hitems.last)]
    split
    · exact hplain
    · next item hitem =>
        exact canonicalRules_ofDenyallow_congr hline hfind h hitems hsize
          (List.mem_of_find?_eq_some hitem) (List.find?_some hitem)
  · have hsign' := mt (h.occurs_iff (.inl rfl)).mpr hsign
    rw [Text.find?_occurs_splitOn_eq_none (by decide) (by decide) hsign,
      Text.find?_occurs_splitOn_eq_none (by decide) (by decide) hsign']
    exact hplain

/-- **Lines that are the same but for the case of their domains give the host the same
rules.** -/
theorem canonicalRules_ofChars_congr
    [DomainEncoder]
    [DomainEncoder.IsCaseBlind]
    (h : SameLine line line') :
    canonicalRules version (Canonical.ofChars line) =
      canonicalRules version (Canonical.ofChars line') := by
  have hcase := h.sameButCase
  cases h with
  | same => rfl
  | network hfind hline hline' hoptions hdenyallow =>
      rw [Canonical.ofChars, Canonical.ofChars, hfind,
        (Marker.find?_eq_none_iff_of_sameButCase hcase).mp hfind]
      exact canonicalRules_ofNetworkLine_congr hfind hline hline' hoptions hdenyallow
  | cosmetic hline hline' hdomains hstyle =>
      rw [Canonical.ofChars, Canonical.ofChars, hline, hline']
      exact hostRules_ofCut_congr hline hline' hdomains hstyle

end Rule
end FilterCompiler
