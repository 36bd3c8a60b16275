import FilterCompiler.Proofs.Rule.Canonical
import FilterCompiler.Proofs.Rule.DomainCase
import FilterCompiler.Proofs.Rule.Parts

/-!
# Lines that are the same but for the letter case of domains

Two lines are the same but for the letter case of the entries of domain lists
(`SameLine`) if the values of `domain` and `from` among their options differ in letter
case only, or the domains in front of a marker do.  Such lines are cut at the same places
and into the same parts: no sign at which a line is cut is a letter, and no domain list
holds one of the words that the rewriting looks for (`IsFreeOfSigns`).
-/

namespace FilterCompiler

/-! ## Cuts -/

theorem cutOptions?_lower
    (before : Option Char)
    (s : List Char) :
    cutOptions? (before.map Text.small) (Text.lower s) = none ↔ cutOptions? before s = none := by
  induction s generalizing before with
  | nil => exact iff_of_true rfl rfl
  | cons c s ih =>
      have hbefore : before.map Text.small = some '\\' ↔ before = some '\\' := by
        cases before <;> simp [@Text.small_eq_iff '\\' (by decide)]
      rw [Text.lower_cons, cutOptions?_cons_eq_none_iff, cutOptions?_cons_eq_none_iff,
        ← Option.map_some, ih, hbefore, Text.head?_lower_eq_some_iff (by decide),
        Text.small_eq_iff (by decide)]

/-! ## Lists of options -/

/-- The text holds none of the signs that are looked for among the options of a rule. -/
def IsFreeOfSigns (s : List Char) : Prop :=
  ∀ sign ∈ [Canonical.denyallowSign, Canonical.domainSign], ¬ Text.occurs sign (Text.lower s)

instance (s : List Char) : Decidable (IsFreeOfSigns s) :=
  inferInstanceAs (Decidable (∀ sign ∈ _, _))

/-- Lists of options that are the same but for the letter case of the entries of domain
lists.  An option that lists domains is told by its name, and a comma in it has a
backslash in front; options are apart where a comma has none. -/
inductive SameOptions : List Char → List Char → Prop
  | same
      (options : List Char) :
      SameOptions options options
  | list
      {name list list' : List Char}
      (hname : Modifier.isDomainName name)
      (hlist : Text.SameButCase list list')
      (hsingle : (Text.splitEscaped ',' list).length = 1)
      (hsigns : IsFreeOfSigns list) :
      SameOptions (name ++ '=' :: list) (name ++ '=' :: list')
  | append
      {first first' rest rest' : List Char}
      (hfirst : SameOptions first first')
      (hend : first.getLast? ≠ some '\\')
      (hrest : SameOptions rest rest') :
      SameOptions (first ++ ',' :: rest) (first' ++ ',' :: rest')

/-- Items of such lists between plain commas: those that hold the sign of an option that
lists domains to leave alone are equal. -/
structure SameItem (item item' : List Char) : Prop where
  options : SameOptions item item'
  eq_of_occurs : Text.occurs Canonical.denyallowSign item → item = item'

theorem Text.occurs_lower
    {sign s : List Char}
    (hsign : lower sign = sign)
    (h : occurs sign s) :
    occurs sign (lower s) := by
  rw [occurs_iff] at h ⊢
  have hmap := h.map small
  rwa [← lower, hsign] at hmap

theorem IsFreeOfSigns.not_occurs
    {s : List Char}
    (h : IsFreeOfSigns s)
    (sign : List Char)
    (hsign : sign ∈ [Canonical.denyallowSign, Canonical.domainSign])
    (hsmall : Text.lower sign = sign) :
    ¬ Text.occurs sign s :=
  mt (Text.occurs_lower hsmall) (h sign hsign)

namespace SameOptions

variable {options options' : List Char}

theorem sameButCase
    (h : SameOptions options options') :
    Text.SameButCase options options' := by
  induction h with
  | same => rfl
  | list hname hlist => exact .append rfl (hlist.cons '=')
  | append hfirst hend hrest ihfirst ihrest => exact ihfirst.append (ihrest.cons ',')

/-- The name of a list of domains does not change where the list is cut. -/
theorem splitEscaped_list
    {name list value : List Char}
    (hname : Modifier.isDomainName name)
    (h : Text.splitEscaped ',' list = [value]) :
    Text.splitEscaped ',' (name ++ '=' :: list) = [name ++ '=' :: value] := by
  have happend := @Text.splitEscaped_append_of_notMem ',' (name ++ ['=']) ?_ ?_ _ _ _ h
  · simpa using happend
  · rcases Modifier.isDomainName_iff.mp hname with rfl | rfl <;> decide
  · rcases Modifier.isDomainName_iff.mp hname with rfl | rfl <;> decide

/-- **Option by option the lists are the same, or lists of domains that are.** -/
theorem splitEscaped
    (h : SameOptions options options') :
    List.Forall₂ SameOption (Text.splitEscaped ',' options) (Text.splitEscaped ',' options') := by
  induction h with
  | same options => exact List.forall₂_same.mpr fun option _ => .same option
  | @list name list list' hname hlist hsingle hsigns =>
      obtain ⟨value, hvalue⟩ := List.length_eq_one_iff.mp hsingle
      have hlower : (Text.splitEscaped ',' list').map Text.lower = [Text.lower value] := by
        rw [← Text.splitEscaped_lower (by decide), ← hlist, Text.splitEscaped_lower (by decide),
          hvalue, List.map_singleton]
      obtain ⟨value', hvalue', hsame⟩ := List.map_eq_singleton_iff.mp hlower
      rw [splitEscaped_list hname hvalue, splitEscaped_list hname hvalue']
      exact .cons (.list hname hsame.symm) .nil
  | append hfirst hend hrest ihfirst ihrest =>
      have hend' := hend
      rw [Ne, hfirst.sameButCase.getLast?_eq_some_iff (by decide)] at hend'
      rw [Text.splitEscaped_append_cons (by decide) hend,
        Text.splitEscaped_append_cons (by decide) hend']
      exact List.rel_append ihfirst ihrest

/-- **The signs are found in one list if they are found in the other one.** -/
theorem occurs_iff
    (h : SameOptions options options')
    {sign : List Char}
    (hsign : sign = Canonical.denyallowSign ∨ sign = Canonical.domainSign) :
    Text.occurs sign options ↔ Text.occurs sign options' := by
  induction h with
  | same => rfl
  | @list name list list' hname hlist hsingle hsigns =>
      -- the equals sign ends a sign, so what occurs across it does so in front of it
      obtain ⟨word, hword, hequal, hsmall⟩ : ∃ word, sign = word ++ ['='] ∧ '=' ∉ word ∧
          Text.lower sign = sign := by
        rcases hsign with rfl | rfl
        · exact ⟨"denyallow".toList, by decide, by decide, by decide⟩
        · exact ⟨"domain".toList, by decide, by decide, by decide⟩
      have hmem : sign ∈ [Canonical.denyallowSign, Canonical.domainSign] := by
        rcases hsign with rfl | rfl <;> simp
      have hsigns' : IsFreeOfSigns list' := by
        rwa [IsFreeOfSigns, ← hlist]
      have hnot := hsigns.not_occurs sign hmem hsmall
      have hnot' := hsigns'.not_occurs sign hmem hsmall
      rw [hword] at hnot hnot' ⊢
      rw [Text.occurs_concat_append_cons hequal name list,
        Text.occurs_concat_append_cons hequal name list', or_iff_left hnot, or_iff_left hnot']
  | append hfirst hend hrest ihfirst ihrest =>
      have hcomma : ',' ∉ sign := by rcases hsign with rfl | rfl <;> decide
      rw [Text.occurs_append_cons hcomma, Text.occurs_append_cons hcomma, ihfirst, ihrest]

/-- **Between plain commas the lists hold the same, or lists of domains without signs.** -/
theorem splitOn
    (h : SameOptions options options')
    (hlast : ∀ item ∈ Text.splitOn ',' options, item.getLast? ≠ some '\\') :
    List.Forall₂ SameItem (Text.splitOn ',' options) (Text.splitOn ',' options') := by
  induction h with
  | same options => exact List.forall₂_same.mpr fun item _ => ⟨.same item, fun _ => rfl⟩
  | @list name list list' hname hlist hsingle hsigns =>
      obtain ⟨value, hvalue⟩ := List.length_eq_one_iff.mp hsingle
      have hcomma : ',' ∉ name ++ '=' :: list := by
        refine Text.notMem_of_length_splitOn ?_
        rw [← Text.splitEscaped_eq_splitOn (by decide) hlast, splitEscaped_list hname hvalue,
          List.length_singleton]
      have hcomma' : ',' ∉ name ++ '=' :: list' := by
        rwa [← (Text.SameButCase.append rfl (hlist.cons '=')).mem_iff (by decide)]
      rw [Text.splitOn_of_notMem hcomma, Text.splitOn_of_notMem hcomma']
      refine .cons ⟨.list hname hlist hsingle hsigns, fun hoccurs => absurd hoccurs ?_⟩ .nil
      have hsign : Canonical.denyallowSign = "denyallow".toList ++ ['='] := rfl
      have hfree := hsigns.not_occurs Canonical.denyallowSign (by decide) (by decide)
      rw [hsign] at hfree ⊢
      rw [Text.occurs_concat_append_cons (by decide), or_iff_left hfree]
      rcases Modifier.isDomainName_iff.mp hname with rfl | rfl <;> decide
  | @append first first' rest rest' hfirst hend hrest ihfirst ihrest =>
      rw [Text.splitOn_append_cons, List.forall_mem_append] at hlast
      rw [Text.splitOn_append_cons, Text.splitOn_append_cons]
      exact List.rel_append (ihfirst hlast.1) (ihrest hlast.2)

/-- Lists of options in a row with commas between them. -/
theorem joinWith
    {items items' : List (List Char)}
    (h : List.Forall₂ SameOptions items items')
    (hlast : ∀ item ∈ items, item.getLast? ≠ some '\\') :
    SameOptions (Text.joinWith [','] items) (Text.joinWith [','] items') := by
  induction h with
  | nil => exact .same []
  | @cons item item' items items' hitem hitems ih =>
      rw [List.forall_mem_cons] at hlast
      cases hitems with
      | nil => exact hitem
      | cons hsecond hrest =>
          rw [Text.joinWith_cons_cons, Text.joinWith_cons_cons, List.append_assoc,
            List.append_assoc]
          exact .append hitem hlast.1 (ih hlast.2)

/-- Lists of options without the item that holds the sign. -/
theorem joinWith_filter
    {item : List Char}
    (h : SameOptions options options')
    (hlast : ∀ item ∈ Text.splitOn ',' options, item.getLast? ≠ some '\\')
    (hsign : Text.occurs Canonical.denyallowSign item) :
    SameOptions
      (Text.joinWith [','] ((Text.splitOn ',' options).filter (· ≠ item)))
      (Text.joinWith [','] ((Text.splitOn ',' options').filter (· ≠ item))) := by
  have hiff (first second : List Char) (hsame : SameItem first second) :
      decide (first ≠ item) = true ↔ decide (second ≠ item) = true := by
    simp only [decide_eq_true_eq, Ne]
    refine not_congr ⟨?_, ?_⟩
    · rintro rfl
      exact (hsame.eq_of_occurs hsign).symm
    · rintro rfl
      exact hsame.eq_of_occurs ((hsame.options.occurs_iff (.inl rfl)).mpr hsign)
  have hkept := @List.rel_filter _ _ SameItem (· ≠ item) (· ≠ item) hiff _ _ (h.splitOn hlast)
  exact joinWith (hkept.imp fun _ _ h => h.options) fun kept hmem =>
    hlast kept (List.mem_filter.mp hmem).1

/-- Texts of options that are the same but for letter case. -/
theorem optionTexts
    (h : SameOptions options options') :
    List.Forall₂ SameOption (NetworkRule.optionTexts (some options))
      (NetworkRule.optionTexts (some options')) := by
  have hempty := h.sameButCase.eq_nil_iff
  by_cases hnil : options = []
  · rw [hnil, hempty.mp hnil]
    exact .nil
  · unfold NetworkRule.optionTexts
    split
    · next heq => cases heq
    · next heq => exact absurd (Option.some.inj heq) hnil
    · next heq =>
        cases heq
        split
        · next heq => cases heq
        · next heq => exact absurd (Option.some.inj heq) (mt hempty.mpr hnil)
        · next heq =>
            cases heq
            exact h.splitEscaped

end SameOptions

/-- The item that holds the sign is the same in both lists. -/
theorem SameItem.find?_eq
    {items items' : List (List Char)}
    (h : List.Forall₂ SameItem items items') :
    items.find? (Text.occurs Canonical.denyallowSign ·) =
      items'.find? (Text.occurs Canonical.denyallowSign ·) := by
  induction h with
  | nil => rfl
  | @cons item item' items items' hitem hitems ih =>
      have hiff := hitem.options.occurs_iff (.inl rfl)
      by_cases hoccurs : Text.occurs Canonical.denyallowSign item
      · rw [List.find?_cons_of_pos hoccurs, List.find?_cons_of_pos (hiff.mp hoccurs),
          hitem.eq_of_occurs hoccurs]
      · rw [List.find?_cons_of_neg hoccurs, List.find?_cons_of_neg (mt hiff.mpr hoccurs), ih]

/-! ## Texts in front of a marker -/

/-- Texts in front of a marker that are the same but for the letter case of the entries of
domain lists: plain lists, or lists of options in brackets and plain lists behind them. -/
inductive SameDomains : List Char → List Char → Prop
  | list
      {s t : List Char}
      (hs : s.head? ≠ some '[')
      (h : Text.SameButCase s t) :
      SameDomains s t
  | options
      {options options' list list' : List Char}
      (hoptions : SameOptions options options')
      (hclose : ']' ∉ list)
      (hlist : Text.SameButCase list list') :
      SameDomains ('[' :: '$' :: (options ++ ']' :: list))
        ('[' :: '$' :: (options' ++ ']' :: list'))

namespace SameDomains

variable {s t : List Char}

theorem sameButCase
    (h : SameDomains s t) :
    Text.SameButCase s t := by
  cases h with
  | list hs h => exact h
  | options hoptions hclose hlist =>
      exact .cons '[' (.cons '$' (hoptions.sameButCase.append (hlist.cons ']')))

theorem seen_parse
    [DomainEncoder]
    [DomainEncoder.IsCaseBlind]
    (h : SameDomains s t) :
    seen PageScope.lowered (PageScope.parse s) = seen PageScope.lowered (PageScope.parse t) := by
  cases h with
  | list hs h => exact PageScope.seen_parse_list_congr hs h
  | @options options options' list list' hoptions hclose hlist =>
      have hclose' : ']' ∉ list' := by
        rwa [← hlist.mem_iff (by decide)]
      rw [PageScope.parse_optionList hclose, PageScope.parse_optionList hclose']
      exact PageScope.seen_ofOptionList_congr hoptions.splitEscaped hlist

end SameDomains

/-! ## Lines -/

/-- Options that stay what they are when others between plain commas are left out: none of
them begins with a slash, which would be taken for the end of a regex, and neither they
nor the domains that are to be left alone end with a backslash, which would be taken for
an escape. -/
structure HasPlainItems (options : List Char) : Prop where
  head : ∀ item ∈ Text.splitOn ',' options, item.head? ≠ some '/'
  last : ∀ item ∈ Text.splitOn ',' options, item.getLast? ≠ some '\\'
  domains : ∀ item ∈ Text.splitOn ',' options, Text.occurs Canonical.denyallowSign item →
    ∀ domain ∈ Canonical.denyallowDomains item, domain.getLast? ≠ some '\\'

instance (options : List Char) : Decidable (HasPlainItems options) :=
  decidable_of_iff (_ ∧ _ ∧ _)
    ⟨fun h => ⟨h.1, h.2.1, h.2.2⟩, fun h => ⟨h.head, h.last, h.domains⟩⟩

/-- Trimmed lines that are the same but for the letter case of the entries of domain lists. -/
inductive SameLine : List Char → List Char → Prop
  | same
      (line : List Char) :
      SameLine line line
  | network
      {line line' pattern options options' : List Char}
      {isException : Bool}
      (hfind : Marker.find? line = none)
      (hline : RuleParts.ofLine line = { isException, pattern, options := some options })
      (hline' : RuleParts.ofLine line' = { isException, pattern, options := some options' })
      (hoptions : SameOptions options options')
      (hdenyallow : Text.occurs Canonical.denyallowSign options → HasPlainItems options) :
      SameLine line line'
  | cosmetic
      {line line' domains domains' content : List Char}
      {marker : Marker}
      (hline : Marker.find? line = some { domains, marker, content })
      (hline' : Marker.find? line' = some { domains := domains', marker, content })
      (hdomains : SameDomains domains domains')
      (hstyle : ¬ Text.occurs Canonical.styleSign (Text.lower domains)) :
      SameLine line line'

/-- Options apart, a line is what its parts say. -/
theorem RuleParts.sameButCase_of_ofLine
    {line line' pattern options options' : List Char}
    {isException : Bool}
    (hline : ofLine line = { isException, pattern, options := some options })
    (hline' : ofLine line' = { isException, pattern, options := some options' })
    (h : Text.SameButCase options options') :
    Text.SameButCase line line' := by
  rw [eq_append_of_cutException (ofLine_eq_some_iff.mp hline).1,
    eq_append_of_cutException (ofLine_eq_some_iff.mp hline').1]
  exact .append rfl (.append rfl (h.cons '$'))

/-- Domains apart, a line is what it is cut into. -/
theorem Marker.sameButCase_of_find?
    {line line' domains domains' content : List Char}
    {marker : Marker}
    (hline : find? line = some { domains, marker, content })
    (hline' : find? line' = some { domains := domains', marker, content })
    (h : Text.SameButCase domains domains') :
    Text.SameButCase line line' := by
  rw [(find?_eq_some_iff.mp hline).2.1, (find?_eq_some_iff.mp hline').2.1]
  exact (h.append rfl).append rfl

theorem SameLine.sameButCase
    {line line' : List Char}
    (h : SameLine line line') :
    Text.SameButCase line line' := by
  cases h with
  | same => rfl
  | network hfind hline hline' hoptions =>
      exact RuleParts.sameButCase_of_ofLine hline hline' hoptions.sameButCase
  | cosmetic hline hline' hdomains =>
      exact Marker.sameButCase_of_find? hline hline' hdomains.sameButCase

/-! ## Markers and comments -/

namespace Marker

theorem isLetter_of_mem_text
    (marker : Marker) :
    ∀ c ∈ marker.text.toList, Domain.isLetter c = false := by
  have hsigns : marker.text.toList.all (!Domain.isLetter ·) := by cases marker <;> decide
  exact fun c hc => by simpa using List.all_eq_true.mp hsigns c hc

theorem isNetworkLine_lower
    (line : List Char) :
    isNetworkLine (Text.lower line) = isNetworkLine line := by
  have hbar := @Text.head?_lower_eq_some_iff '|' (by decide) line
  have hat := @Text.head?_lower_eq_some_iff '@' (by decide) line
  rw [Bool.eq_iff_iff]
  simp only [isNetworkLine, Bool.or_eq_true, decide_eq_true_eq, beq_iff_eq, Text.byteLength_lower,
    hbar, hat]

/-- **Letter case does not hide a marker.** -/
theorem find?_eq_none_iff_of_sameButCase
    {line line' : List Char}
    (h : Text.SameButCase line line') :
    find? line = none ↔ find? line' = none := by
  have hlower (s : List Char) : find? (Text.lower s) = none ↔ find? s = none := by
    rw [find?, find?, isNetworkLine_lower]
    split
    · rfl
    · rw [search?_eq_none_iff, search?_eq_none_iff]
      exact forall_congr' fun marker =>
        not_congr (Text.isInfix_lower_iff (isLetter_of_mem_text marker))
  rw [← hlower, h, hlower]

end Marker

namespace Rule

theorem isComment_eq
    (line : List Char) :
    isComment line =
      (line.head? == some '!' ||
        (line.head? == some '#' && (line.tail.isEmpty || line.tail.head? == some ' ')) ||
        (line.head? == some '[' && line.tail.head? != some '$' && Text.endsWithChar ']' line)) := by
  cases line with
  | nil => rfl
  | cons c s =>
      unfold isComment
      split <;> simp_all

theorem isSkipped_lower
    (line : List Char) :
    isSkipped (Text.lower line) = isSkipped line := by
  have hhead {sign : Char} (hsign : Domain.isLetter sign = false) (s : List Char) :
      ((Text.lower s).head? == some sign) = (s.head? == some sign) :=
    Bool.eq_iff_iff.mpr (by simpa using Text.head?_lower_eq_some_iff hsign)
  have hlast : Text.endsWithChar ']' (Text.lower line) = Text.endsWithChar ']' line :=
    Bool.eq_iff_iff.mpr (by
      simpa [Text.endsWithChar] using @Text.getLast?_lower_eq_some_iff ']' (by decide) line)
  have htail : (Text.lower line).tail = Text.lower line.tail := List.map_tail.symm
  have hempty (s : List Char) : (Text.lower s).isEmpty = s.isEmpty := List.isEmpty_map
  simp only [isSkipped, isComment_eq, bne, htail, hempty, hlast, @hhead '!' (by decide),
    @hhead '#' (by decide), @hhead ' ' (by decide), @hhead '[' (by decide),
    @hhead '$' (by decide)]

end Rule
end FilterCompiler
