import FilterCompiler.Proofs.Pattern.HostAnchor
import FilterCompiler.Proofs.Rule.Marker
import FilterCompiler.Proofs.Rule.Parts
import FilterCompiler.Rule.Canonical

/-!
# Rules that leave domains alone

A network line with an option that lists domains to leave alone becomes the line without
that option and, for each domain, lines of the opposite polarity with the other options
(`lines_denyallow`).  The parts of a new line are those that it was put together from: it
is cut at the sign of options in front of the remaining options, since no sign of options
is among them.  It has no marker either: a sign with which an option begins is in no
marker, so a marker would stand in what precedes the options or in one of them, and thus
in the line itself (`occurs_options_iff`).
-/

namespace FilterCompiler

/-! ## Options -/

/-- An option may begin with the character: a letter, a tilde or an underscore. -/
def isOptionStart (c : Char) : Bool :=
  Domain.isLetter c || !Text.isAscii c || c == '~' || c == '_'

/-- An option that stands in a list as it is. -/
structure IsOption (item : List Char) : Prop where
  head : ∃ c, item.head? = some c ∧ isOptionStart c
  comma : ',' ∉ item
  dollar : '$' ∉ item
  backslash : '\\' ∉ item

/-- No marker holds a character with which an option may begin. -/
theorem Marker.notMem_of_isOptionStart
    {c : Char}
    (hc : isOptionStart c)
    (marker : Marker) :
    c ∉ marker.text.toList := by
  have hsigns : marker.text.toList.all (!isOptionStart ·) = true := by
    cases marker <;> rfl
  intro hmem
  have hsign := List.all_eq_true.mp hsigns c hmem
  rw [hc] at hsign
  exact Bool.false_ne_true hsign

/-- A list of options introduced by the sign of options. -/
def withOptions (first : List Char) (items : List (List Char)) : List Char :=
  first ++ '$' :: Text.joinWith [','] items

section Options

variable {first : List Char} {items : List (List Char)}

/-- **A marker in a line with options stands in front of the options or in one of them.** -/
theorem occurs_options_iff
    (hne : items ≠ [])
    (h : ∀ item ∈ items, IsOption item)
    (marker : Marker) :
    Text.occurs marker.text.toList (withOptions first items) ↔
      Text.occurs marker.text.toList (first ++ ['$']) ∨
        ∃ item ∈ items, Text.occurs marker.text.toList item := by
  have hcomma : ',' ∉ marker.text.toList := by
    cases marker <;> decide
  have hstart : ∃ c, (Text.joinWith [','] items).head? = some c ∧ isOptionStart c :=
    Text.exists_head?_joinWith hne fun item hitem => (h item hitem).head
  obtain ⟨c, hhead, hc⟩ := hstart
  have hline : withOptions first items = first ++ ['$'] ++ Text.joinWith [','] items := by
    simp [withOptions]
  rw [hline,
    Text.occurs_append_of_head? marker.text_ne_nil (Marker.notMem_of_isOptionStart hc marker) hhead,
    Text.occurs_joinWith hcomma marker.text_ne_nil]

/-- Leaving out options brings no marker in. -/
theorem Marker.find?_withOptions
    (hne : items ≠ [])
    (h : ∀ item ∈ items, IsOption item)
    {items' : List (List Char)}
    (hne' : items' ≠ [])
    (hsubset : ∀ item ∈ items', item ∈ items)
    (hsize : 2 < Text.byteLength (withOptions first items))
    (hline : find? (withOptions first items) = none) :
    find? (withOptions first items') = none := by
  cases hnetwork : isNetworkLine (withOptions first items') with
  | true => rw [find?, hnetwork, if_pos rfl]
  | false =>
      have hplain : isNetworkLine (withOptions first items) = false :=
        isNetworkLine_append_dollar hsize hnetwork
      rw [find?, hplain, if_neg Bool.false_ne_true, search?_eq_none_iff] at hline
      rw [find?, hnetwork, if_neg Bool.false_ne_true, search?_eq_none_iff]
      intro marker hmarker
      refine hline marker ?_
      rw [← Text.occurs_iff, occurs_options_iff hne' fun item hitem => h item (hsubset item hitem)]
        at hmarker
      rw [← Text.occurs_iff, occurs_options_iff hne h]
      rcases hmarker with hfirst | ⟨item, hitem, hoccurs⟩
      · exact .inl hfirst
      · exact .inr ⟨item, hsubset item hitem, hoccurs⟩

/-- No sign of options is among options. -/
theorem dollar_notMem_joinWith
    (h : ∀ item ∈ items, IsOption item) :
    '$' ∉ Text.joinWith [','] items := by
  intro hmem
  refine Text.forall_mem_joinWith (p := (· ≠ '$')) ?_ ?_ '$' hmem rfl
  · exact List.forall_mem_singleton.mpr (by decide)
  · exact fun item hitem c hc hdollar => (h item hitem).dollar (hdollar ▸ hc)

theorem head?_joinWith_ne_slash
    (h : ∀ item ∈ items, IsOption item) :
    (Text.joinWith [','] items).head? ≠ some '/' := by
  refine Text.head?_joinWith_ne (by decide) fun item hitem hslash => ?_
  obtain ⟨c, hhead, hc⟩ := (h item hitem).head
  rw [hhead, Option.some_inj] at hslash
  exact absurd (hslash ▸ hc) (by decide)

end Options

/-- **A pattern with other options is cut in front of them.** -/
theorem RuleParts.ofLine_withOptions
    {first : List Char}
    {items : List (List Char)}
    (hfirst : first.getLast? ≠ some '\\')
    (h : ∀ item ∈ items, IsOption item) :
    ofLine (withOptions first items) =
      { isException := (cutException first).1
        pattern := (cutException first).2
        options := some (Text.joinWith [','] items) } :=
  ofLine_append_dollar hfirst (head?_joinWith_ne_slash h)
    (cutOptions?_of_notMem (dollar_notMem_joinWith h) _)

namespace Canonical

/-! ## The lines of a domain -/

/-- The option that lists these domains to leave alone. -/
def denyallowItem (domains : List Domain.HostName) : List Char :=
  denyallowSign ++ Text.joinWith ['|'] (domains.map (·.text.toList))

/-- The patterns of the lines for a domain, by the path of the pattern of the rule. -/
def domainPatterns (path : List Char) (domain : Domain.HostName) : List (List Char) :=
  let host := "||".toList ++ domain.text.toList
  if path = [] ∨ path = ['*'] then [host]
  else [host ++ ['/'] ++ path, host ++ ['/', '*', '/'] ++ path]

/-- The options of the lines for a domain. -/
def domainOptions (isException : Bool) (items : List (List Char)) : List (List Char) :=
  items ++ if isException then ["important".toList] else []

theorem length_domainPatterns
    (path : List Char)
    (domain : Domain.HostName) :
    (domainPatterns path domain).length = if path = [] ∨ path = ['*'] then 1 else 2 := by
  rw [domainPatterns]
  split <;> rfl

/-- The path of a pattern stands at its end. -/
theorem isSuffix_patternPath
    (pattern : List Char) :
    patternPath pattern <:+ pattern := by
  unfold patternPath
  split
  · next rest =>
      cases hbreak : Text.breakAt? '/' rest with
      | none => exact List.nil_suffix
      | some p =>
          rw [Text.breakAt?_eq_some hbreak]
          exact ⟨'|' :: '|' :: p.1 ++ ['/'], by simp⟩
  · exact List.suffix_cons _ _
  · exact List.suffix_refl _

theorem getLast?_patternPath_ne
    {pattern : List Char}
    {c : Char}
    (h : pattern.getLast? ≠ some c) :
    (patternPath pattern).getLast? ≠ some c := by
  obtain ⟨before, hbefore⟩ := isSuffix_patternPath pattern
  intro hlast
  rw [← hbefore, List.getLast?_append, hlast] at h
  exact h rfl

/-- No backslash stands at the end of a pattern of a domain. -/
theorem getLast?_domainPatterns_ne
    {path : List Char}
    (hpath : path.getLast? ≠ some '\\')
    {domain : Domain.HostName}
    {pattern : List Char}
    (h : pattern ∈ domainPatterns path domain) :
    pattern.getLast? ≠ some '\\' := by
  rw [domainPatterns] at h
  split at h
  · rw [List.mem_singleton.mp h, List.getLast?_append]
    intro hlast
    cases hname : domain.text.toList.getLast? with
    | none => rw [hname] at hlast; exact absurd hlast (by decide)
    | some c =>
        rw [hname, Option.some_or] at hlast
        exact domain.notMem (d := '\\') (by decide) (List.mem_of_getLast? (hname.trans hlast))
  · next hne =>
      rw [not_or] at hne
      rcases List.mem_pair.mp h with rfl | rfl
      · rwa [List.getLast?_append_of_ne_nil _ hne.1]
      · rwa [List.getLast?_append_of_ne_nil _ hne.1]

/-- The line for a domain with this pattern. -/
def domainLine (isException : Bool) (items : List (List Char)) (pattern : List Char) : List Char :=
  withOptions ((if isException then [] else "@@".toList) ++ pattern)
    (domainOptions isException items)

theorem joinWith_domainOptions
    (isException : Bool)
    {items : List (List Char)}
    (hne : items ≠ []) :
    Text.joinWith [','] (domainOptions isException items) =
      Text.joinWith [','] items ++ if isException then ",important".toList else [] := by
  cases isException with
  | false => simp [domainOptions]
  | true =>
      rw [domainOptions, if_pos rfl, if_pos rfl, Text.joinWith_concat hne, List.append_assoc]
      rfl

theorem domainLines_eq
    (isException : Bool)
    (path : List Char)
    {items : List (List Char)}
    (hne : items ≠ [])
    (domain : Domain.HostName) :
    domainLines isException path (Text.joinWith [','] items) domain.text.toList =
      (domainPatterns path domain).map (domainLine isException items) := by
  simp only [domainLines, domainPatterns, apply_ite (List.map (domainLine isException items)),
    List.map_cons, List.map_nil, domainLine, withOptions, joinWith_domainOptions isException hne]
  cases isException <;> simp

/-! ## The lines of a rule -/

theorem isOption_denyallowItem
    (domains : List Domain.HostName) :
    IsOption (denyallowItem domains) := by
  have hnotMem {c : Char} (hc : Domain.isNameChar c = false) (hsep : c ≠ '|')
      (hsign : c ∉ denyallowSign) : c ∉ denyallowItem domains := by
    intro hmem
    rcases List.mem_append.mp hmem with hmem | hmem
    · exact hsign hmem
    · refine Text.forall_mem_joinWith (p := (· ≠ c)) ?_ ?_ c hmem rfl
      · exact List.forall_mem_singleton.mpr hsep.symm
      · rw [List.forall_mem_map]
        exact fun domain _ d hd hdc => domain.notMem hc (hdc ▸ hd)
  exact
    { head := ⟨'d', rfl, by decide⟩
      comma := hnotMem (by decide) (by decide) (by decide)
      dollar := hnotMem (by decide) (by decide) (by decide)
      backslash := hnotMem (by decide) (by decide) (by decide) }

theorem occurs_denyallowItem
    (domains : List Domain.HostName) :
    Text.occurs denyallowSign (denyallowItem domains) :=
  Text.occurs_iff.mpr (List.prefix_append _ _).isInfix

/-- The domains that are listed are read again. -/
theorem denyallowDomains_denyallowItem
    {domains : List Domain.HostName}
    (hne : domains ≠ []) :
    denyallowDomains (denyallowItem domains) = domains.map (·.text.toList) := by
  rw [denyallowDomains, denyallowItem, Text.removeFirst_append (by decide),
    Text.splitOn_joinWith (by simpa using hne)]
  rw [List.forall_mem_map]
  exact fun domain _ => domain.notMem (by decide)

/-- Names of hosts are plain domains. -/
theorem any_denyallowDomains
    {domains : List Domain.HostName}
    (hne : domains ≠ []) :
    ((denyallowDomains (denyallowItem domains)).any fun d =>
      Text.beginsWith ['~'] d || d.contains '*') = false := by
  rw [denyallowDomains_denyallowItem hne, List.any_map, List.any_eq_false]
  intro domain _
  have htilde : ¬ Text.beginsWith ['~'] domain.text.toList := fun h =>
    domain.notMem (d := '~') (by decide) ((Text.beginsWith_iff.mp h).subset List.mem_cons_self)
  have hstar : '*' ∉ domain.text.toList := domain.notMem (by decide)
  simp [htilde, hstar]

section Denyallow

variable
  {isException : Bool}
  {pattern : List Char}
  {before after : List (List Char)}
  {domains : List Domain.HostName}

theorem find?_denyallowItem
    (h : ∀ item ∈ before ++ after, ¬ Text.occurs denyallowSign item) :
    (before ++ denyallowItem domains :: after).find? (Text.occurs denyallowSign ·) =
      some (denyallowItem domains) := by
  rw [List.forall_mem_append] at h
  rw [List.find?_append, List.find?_eq_none.mpr h.1, Option.none_or,
    List.find?_cons_of_pos (occurs_denyallowItem domains)]

theorem filter_denyallowItem
    (h : ∀ item ∈ before ++ after, ¬ Text.occurs denyallowSign item) :
    (before ++ denyallowItem domains :: after).filter (· ≠ denyallowItem domains) =
      before ++ after := by
  rw [List.forall_mem_append] at h
  have hother (item : List Char) (hitem : ¬ Text.occurs denyallowSign item) :
      decide (item ≠ denyallowItem domains) = true :=
    decide_eq_true fun heq => hitem (heq ▸ occurs_denyallowItem domains)
  rw [List.filter_append, List.filter_cons_of_neg (by simp),
    List.filter_eq_self.mpr fun item hitem => hother item (h.1 item hitem),
    List.filter_eq_self.mpr fun item hitem => hother item (h.2 item hitem)]

/-- **The lines that take the place of a rule that leaves domains alone.** -/
theorem ofNetworkLine_denyallow
    {line : List Char}
    (hparts : RuleParts.ofLine line =
      { isException, pattern
        options := some (Text.joinWith [','] (before ++ denyallowItem domains :: after)) })
    (hpattern : isAnchored pattern = false)
    (hne : domains ≠ [])
    (hoptions : ∀ item ∈ before ++ after, IsOption item)
    (hothers : ∀ item ∈ before ++ after, ¬ Text.occurs denyallowSign item)
    (hdomain : ∃ item ∈ before ++ after, Text.beginsWith domainSign item) :
    ofNetworkLine line =
      .ok (withOptions ((if isException then "@@".toList else []) ++ pattern) (before ++ after) ::
        domains.flatMap fun domain =>
          (domainPatterns (patternPath pattern) domain).map
            (domainLine isException (before ++ after))) := by
  have hmem (item : List Char) (hitem : item ∈ before ++ after) :
      item ∈ before ++ denyallowItem domains :: after :=
    (List.mem_append.mp hitem).elim (List.mem_append_left _)
      fun hitem => List.mem_append_right _ (List.mem_cons_of_mem _ hitem)
  have hcut : Text.splitOn ',' (Text.joinWith [','] (before ++ denyallowItem domains :: after)) =
      before ++ denyallowItem domains :: after := by
    refine Text.splitOn_joinWith (by simp) ?_
    rw [List.forall_mem_append, List.forall_mem_cons]
    rw [List.forall_mem_append] at hoptions
    exact ⟨fun item hitem => (hoptions.1 item hitem).comma, (isOption_denyallowItem domains).comma,
      fun item hitem => (hoptions.2 item hitem).comma⟩
  have hsign : Text.occurs denyallowSign line := by
    rw [RuleParts.occurs_iff_of_ofLine (by decide) hparts,
      Text.occurs_joinWith (by decide) (by decide)]
    exact .inr ⟨_, by simp, occurs_denyallowItem domains⟩
  have hdomainSign : Text.occurs domainSign
      (Text.joinWith [','] (before ++ denyallowItem domains :: after)) := by
    obtain ⟨item, hitem, hlead⟩ := hdomain
    rw [Text.occurs_joinWith (by decide) (by decide)]
    exact ⟨item, hmem item hitem, Text.occurs_iff.mpr (Text.beginsWith_iff.mp hlead).isInfix⟩
  have hitems : before ++ after ≠ [] := by
    obtain ⟨item, hitem, -⟩ := hdomain
    exact List.ne_nil_of_mem hitem
  rw [ofNetworkLine, if_neg (not_not_intro hsign), hparts]
  dsimp only
  rw [hcut, find?_denyallowItem hothers, if_neg (by simp [hpattern, hdomainSign])]
  dsimp only
  rw [ofDenyallow, any_denyallowDomains hne, if_neg Bool.false_ne_true,
    filter_denyallowItem hothers, denyallowDomains_denyallowItem hne]
  dsimp only
  rw [List.flatMap_map]
  simp only [domainLines_eq _ _ hitems, withOptions, List.append_assoc, List.singleton_append]

/-- No marker comes in when the option is left out. -/
theorem find?_withoutItem
    {first : List Char}
    (hne : before ++ after ≠ [])
    (hoptions : ∀ item ∈ before ++ after, IsOption item)
    (hmarker : Marker.find? (withOptions first (before ++ denyallowItem domains :: after)) = none) :
    Marker.find? (withOptions first (before ++ after)) = none := by
  refine Marker.find?_withOptions ?_ ?_ hne ?_ ?_ hmarker
  · simp
  · rw [List.forall_mem_append, List.forall_mem_cons]
    rw [List.forall_mem_append] at hoptions
    exact ⟨hoptions.1, isOption_denyallowItem domains, hoptions.2⟩
  · simp only [List.mem_append, List.mem_cons]
    exact fun item hitem => hitem.imp_right .inr
  · have hsign : Text.occurs denyallowSign
        (withOptions first (before ++ denyallowItem domains :: after)) := by
      rw [withOptions, Text.occurs_append_cons (by decide),
        Text.occurs_joinWith (by decide) (by decide)]
      exact .inr ⟨_, by simp, occurs_denyallowItem domains⟩
    exact Nat.lt_of_lt_of_le (by decide) (Text.byteLength_le_of_occurs hsign)

/-- A line for a domain is a network line with the pattern and the options that it was put
together from. -/
theorem parts_domainLine
    {path : List Char}
    (hpath : path.getLast? ≠ some '\\')
    {items : List (List Char)}
    (hne : items ≠ [])
    (h : ∀ item ∈ items, IsOption item)
    {pattern : List Char}
    (hpattern : pattern ∈ domains.flatMap (domainPatterns path)) :
    Marker.find? (domainLine isException items pattern) = none ∧
      RuleParts.ofLine (domainLine isException items pattern) =
        { isException := !isException, pattern
          options := some (Text.joinWith [','] items ++
            if isException then ",important".toList else []) } := by
  have hoptions : ∀ item ∈ domainOptions isException items, IsOption item := by
    rw [domainOptions, List.forall_mem_append]
    refine ⟨h, fun item hitem => ?_⟩
    split at hitem
    · rw [List.mem_singleton.mp hitem]
      exact ⟨⟨'i', rfl, by decide⟩, by decide, by decide, by decide⟩
    · cases hitem
  obtain ⟨domain, -, hpattern⟩ := List.mem_flatMap.mp hpattern
  have hlast := getLast?_domainPatterns_ne hpath hpattern
  obtain ⟨rest, rfl⟩ : ∃ rest, pattern = '|' :: '|' :: rest := by
    rw [domainPatterns] at hpattern
    split at hpattern
    · exact ⟨_, List.mem_singleton.mp hpattern⟩
    · rcases List.mem_pair.mp hpattern with rfl | rfl
      · exact ⟨_, rfl⟩
      · exact ⟨_, rfl⟩
  rw [← joinWith_domainOptions isException hne, domainLine]
  cases isException with
  | true =>
      refine ⟨?_, RuleParts.ofLine_withOptions hlast hoptions⟩
      rw [Marker.find?, if_pos (by simp [Marker.isNetworkLine, withOptions])]
  | false =>
      refine ⟨?_, RuleParts.ofLine_withOptions ?_ hoptions⟩
      · rw [Marker.find?, if_pos (by simp [Marker.isNetworkLine, withOptions])]
      · rwa [if_neg Bool.false_ne_true, List.getLast?_append_of_ne_nil _ (List.cons_ne_nil _ _)]

/-- **A rule that leaves domains alone is the rule without that option and, for each of the
domains, rules of the opposite polarity.**  All of them have the other options, and those
of an exception are important.  The patterns for a domain are those of the domain with the
path of the rule. -/
theorem lines_denyallow
    {line : String}
    (hmarker : Marker.find? line.toList = none)
    (hparts : RuleParts.ofLine line.toList =
      { isException, pattern
        options := some (Text.joinWith [','] (before ++ denyallowItem domains :: after)) })
    (hpattern : isAnchored pattern = false)
    (hne : domains ≠ [])
    (hoptions : ∀ item ∈ before ++ after, IsOption item)
    (hothers : ∀ item ∈ before ++ after, ¬ Text.occurs denyallowSign item)
    (hdomain : ∃ item ∈ before ++ after, Text.beginsWith domainSign item) :
    ∃ first others, lines line = .ok (first :: others) ∧
      (first :: others).length =
        (if patternPath pattern = [] ∨ patternPath pattern = ['*'] then 1 + domains.length
          else 1 + 2 * domains.length) ∧
      (∀ line' ∈ first :: others, Marker.find? line'.toList = none) ∧
      RuleParts.ofLine first.toList =
        { isException, pattern, options := some (Text.joinWith [','] (before ++ after)) } ∧
      (others.map fun line' => RuleParts.ofLine line'.toList) =
        (domains.flatMap (domainPatterns (patternPath pattern))).map fun pattern =>
          { isException := !isException, pattern
            options := some (Text.joinWith [','] (before ++ after) ++
              if isException then ",important".toList else []) } := by
  have hitems : before ++ after ≠ [] := by
    obtain ⟨item, hitem, -⟩ := hdomain
    exact List.ne_nil_of_mem hitem
  obtain ⟨-, hlast, -⟩ := RuleParts.ofLine_eq_some_iff.mp hparts
  have hpath : (patternPath pattern).getLast? ≠ some '\\' := getLast?_patternPath_ne hlast
  obtain ⟨hline, hexception, hfirst⟩ := RuleParts.eq_append_of_ofLine hparts
  let first := withOptions ((if isException then "@@".toList else []) ++ pattern) (before ++ after)
  let others := (domains.flatMap (domainPatterns (patternPath pattern))).map
    (domainLine isException (before ++ after))
  have hlines : lines line = .ok ((first :: others).map String.ofList) := by
    rw [lines, ofChars, hmarker]
    dsimp only
    rw [ofNetworkLine_denyallow hparts hpattern hne hoptions hothers hdomain]
    simp only [others, List.map_flatMap]
    rfl
  rw [hline] at hmarker
  refine ⟨_, _, hlines, ?_, ?_, ?_, ?_⟩
  · simp only [others, List.length_cons, List.length_map, List.length_flatMap, length_domainPatterns,
      List.map_const', List.sum_replicate_nat]
    split <;> omega
  · rw [List.forall_mem_cons, List.forall_mem_map, List.forall_mem_map]
    simp only [String.toList_ofList]
    exact ⟨find?_withoutItem hitems hoptions hmarker,
      fun pattern' hmem => (parts_domainLine hpath hitems hoptions hmem).1⟩
  · rw [String.toList_ofList, RuleParts.ofLine_withOptions hfirst hoptions, hexception]
  · rw [List.map_map, List.map_map]
    refine List.map_congr_left fun pattern' hmem => ?_
    rw [Function.comp_apply, Function.comp_apply, String.toList_ofList]
    exact (parts_domainLine hpath hitems hoptions hmem).2

/-- The signs of options and of markers in a pattern are not taken for those of the line. -/
theorem lines_denyallow_path :
    Marker.find? "/a$b#c^$~script,denyallow=x.example|y.example,domain=z.example".toList = none ∧
      ∃ first others,
        lines "/a$b#c^$~script,denyallow=x.example|y.example,domain=z.example" =
          .ok (first :: others) ∧
        (first :: others).length = 5 ∧
        (∀ line' ∈ first :: others, Marker.find? line'.toList = none) ∧
        RuleParts.ofLine first.toList =
          { isException := false, pattern := "/a$b#c^".toList
            options := some "~script,domain=z.example".toList } ∧
        (others.map fun line' => RuleParts.ofLine line'.toList) =
          ["||x.example/a$b#c^".toList, "||x.example/*/a$b#c^".toList,
              "||y.example/a$b#c^".toList, "||y.example/*/a$b#c^".toList].map fun pattern =>
            { isException := true, pattern
              options := some "~script,domain=z.example".toList } := by
  have hmarker : Marker.find?
      "/a$b#c^$~script,denyallow=x.example|y.example,domain=z.example".toList = none := by
    decide +kernel
  have hoptions : ∀ item ∈ ["~script".toList] ++ ["domain=z.example".toList], IsOption item := by
    simp only [List.singleton_append, List.forall_mem_cons]
    exact ⟨⟨⟨'~', rfl, by decide⟩, by decide, by decide, by decide⟩,
      ⟨⟨'d', rfl, by decide⟩, by decide, by decide, by decide⟩, List.forall_mem_nil _⟩
  have hparts : RuleParts.ofLine
      "/a$b#c^$~script,denyallow=x.example|y.example,domain=z.example".toList =
        { isException := false, pattern := "/a$b#c^".toList
          options := some (Text.joinWith [','] (["~script".toList] ++ denyallowItem
            [⟨"x.example", by decide, List.all_eq_true.mp rfl, by decide⟩,
              ⟨"y.example", by decide, List.all_eq_true.mp rfl, by decide⟩] :: ["domain=z.example".toList])) } := by
    decide +kernel
  obtain ⟨first, others, hlines, hlength, hmarkers, hfirst, hothers⟩ :=
    lines_denyallow hmarker hparts (by decide) (by decide) hoptions (by decide +kernel)
      ⟨"domain=z.example".toList, by decide, by decide⟩
  exact ⟨hmarker, first, others, hlines, hlength, hmarkers, hfirst, hothers⟩

end Denyallow

end Canonical
end FilterCompiler
