import FilterCompiler.Proofs.LetterCase
import FilterCompiler.Proofs.Pattern.Host
import FilterCompiler.Proofs.Rule.Outcomes
import FilterCompiler.Proofs.Rule.Reading
import FilterCompiler.Rule.Basic

/-!
# Rules and the letter case of their domains

The reading of a domain does not look at letter case: an ASCII domain is taken as it is,
and any other one is left to an encoder that does not look at it either
(`DomainEncoder.IsCaseBlind`); by default it is written in small letters first.  So texts that are the
same but for the case of their domains are read as the same rules once the domains are
written in small letters (`NetworkRule.lowered`, `CosmeticRule.lowered`), and one is read
if the other is.
-/

namespace FilterCompiler

/-- What has been read, seen through a view; a fault is nothing. -/
def seen {ε α β : Type} (view : α → β) (result : Except ε α) : Option β :=
  result.toOption.map view

@[simp] theorem seen_ok
    {ε α β : Type}
    (view : α → β)
    (a : α) :
    seen view (.ok a : Except ε α) = some (view a) := rfl

@[simp] theorem seen_error
    {ε α β : Type}
    (view : α → β)
    (e : ε) :
    seen view (.error e : Except ε α) = none := rfl

/-- **Items that are read alike make lists that are read alike.** -/
theorem seen_mapM_congr
    {α β γ ε : Type}
    {read : α → Except ε β}
    (view : β → γ)
    {items items' : List α}
    (h : List.Forall₂ (fun item item' => seen view (read item) = seen view (read item'))
      items items') :
    seen (List.map view) (items.mapM read) = seen (List.map view) (items'.mapM read) := by
  induction h with
  | nil => rfl
  | @cons item item' items items' hread hrest ih =>
      rw [List.mapM_cons, List.mapM_cons]
      cases hitem : read item <;> cases hitem' : read item' <;>
        cases hitems : items.mapM read <;> cases hitems' : items'.mapM read <;>
        simp_all [bind, Except.bind, pure, Except.pure]

/-! ## Domains -/

namespace Idna

theorem status_of_capital
    {c : Char}
    (h : 'A' ≤ c ∧ c ≤ 'Z') :
    status c = .mapped [Text.small c] := by
  have hascii : Text.isAscii c :=
    Text.forall_capital (P := fun c => Text.isAscii c = true) (by decide) h
  rw [status, if_pos hascii, asciiStatus, if_pos h, Text.small, if_pos h]

theorem status_small_of_capital
    {c : Char}
    (h : 'A' ≤ c ∧ c ≤ 'Z') :
    status (Text.small c) = .valid := by
  have hsmall : Text.isAscii (Text.small c) = true ∧ ¬ ('A' ≤ Text.small c ∧ Text.small c ≤ 'Z') :=
    Text.forall_capital
      (P := fun c => Text.isAscii (Text.small c) = true ∧
        ¬ ('A' ≤ Text.small c ∧ Text.small c ≤ 'Z')) (by decide) h
  rw [status, if_pos hsmall.1, asciiStatus, if_neg hsmall.2]

/-- **A host name is written in small letters before it is encoded.** -/
theorem mapText_lower
    (s : List Char) :
    mapText (Text.lower s) = mapText s := by
  induction s with
  | nil => rfl
  | cons c s ih =>
      rw [Text.lower_cons, mapText, mapText, ih]
      by_cases hc : 'A' ≤ c ∧ c ≤ 'Z'
      · rw [status_of_capital hc, status_small_of_capital hc]
        rfl
      · rw [Text.small_of_not_capital hc]

theorem toAscii_lower
    (host : String) :
    toAscii (Domain.lower host) = toAscii host := by
  simp only [toAscii, labels?, Domain.toList_lower, mapText_lower]

end Idna

/-- The encoder does not look at letter case. -/
class DomainEncoder.IsCaseBlind [DomainEncoder] : Prop where
  toAscii_lower : ∀ host : String,
    DomainEncoder.toAscii (Domain.lower host) = DomainEncoder.toAscii host

instance : DomainEncoder.IsCaseBlind where
  toAscii_lower := Idna.toAscii_lower

theorem Domain.map_lower_toAscii
    [DomainEncoder]
    [DomainEncoder.IsCaseBlind]
    (domain : String) :
    (toAscii (lower domain)).map lower = (toAscii domain).map lower := by
  rw [toAscii, toAscii, toList_lower, Text.all_isAscii_lower,
    DomainEncoder.IsCaseBlind.toAscii_lower]
  split
  · rw [Option.map_some, Option.map_some, lower_lower]
  · rfl

namespace Pattern

theorem isLiteralRegex_lower
    (s : List Char) :
    isLiteralRegex (String.ofList (Text.lower s)) = isLiteralRegex (String.ofList s) := by
  have hslash : Domain.isLetter '/' = false := by decide
  rw [Bool.eq_iff_iff, isLiteralRegex_iff_ends, isLiteralRegex_iff_ends, String.toList_ofList,
    String.toList_ofList, Text.head?_lower_eq_some_iff hslash,
    Text.getLast?_lower_eq_some_iff hslash, Text.lower, List.length_map]

end Pattern

namespace DomainItem

/-- The item with its domain in small letters. -/
def lowered (item : DomainItem) : DomainItem := { item with domain := Domain.lower item.domain }

theorem seen_readDomain_lower
    [DomainEncoder]
    [DomainEncoder.IsCaseBlind]
    (item : List Char) :
    seen Domain.lower (readDomain (Text.lower item)) = seen Domain.lower (readDomain item) := by
  have htilde : '~' ∈ Text.lower item ↔ '~' ∈ item := Text.mem_lower_iff (by decide)
  have hascii := Domain.map_lower_toAscii (String.ofList item)
  rw [Domain.lower_eq, String.toList_ofList] at hascii
  simp only [readDomain, htilde, Text.byteLength_lower, Pattern.isLiteralRegex_lower,
    List.isEmpty_iff, Text.lower_eq_nil_iff]
  split
  · rfl
  split
  · rfl
  split
  · rfl
  split
  · rfl
  · cases hlower : Domain.toAscii (String.ofList (Text.lower item)) <;>
      cases hitem : Domain.toAscii (String.ofList item) <;> simp_all

theorem seen_read_lower
    [DomainEncoder]
    [DomainEncoder.IsCaseBlind]
    (item : List Char) :
    seen lowered (read (Text.lower item)) = seen lowered (read item) := by
  have hdomain := seen_readDomain_lower (Text.cutTilde item).2
  simp only [read, Text.cutTilde_lower]
  cases hlower : readDomain (Text.lower (Text.cutTilde item).2) <;>
    cases hitem : readDomain (Text.cutTilde item).2 <;> simp_all [lowered]

end DomainItem

namespace DomainScope

/-- The scope with its domains in small letters. -/
def lowered (scope : DomainScope) : DomainScope :=
  { permitted := scope.permitted.map Domain.lower
    restricted := scope.restricted.map Domain.lower }

@[simp] theorem lowered_append
    (a b : DomainScope) :
    (a ++ b).lowered = a.lowered ++ b.lowered := by
  change lowered ⟨_, _⟩ = _
  simp only [lowered, List.map_append]
  rfl

theorem lowered_ofItems
    (items : List DomainItem) :
    (ofItems items).lowered = ofItems (items.map DomainItem.lowered) := by
  simp only [ofItems, lowered, List.filter_map, List.map_map]
  rfl

/-- **Lists of domains are read alike if they are the same but for letter case.** -/
theorem seen_ofList_congr
    [DomainEncoder]
    [DomainEncoder.IsCaseBlind]
    {sign : Char}
    (hsign : Domain.isLetter sign = false)
    {s t : List Char}
    (h : Text.SameButCase s t) :
    seen lowered (ofList sign s) = seen lowered (ofList sign t) := by
  have hitems (s : List Char) :
      seen lowered (ofList sign s) =
        (seen (List.map DomainItem.lowered) (DomainItem.readAll (Text.splitOn sign s))).map
          ofItems := by
    rw [ofList]
    cases DomainItem.readAll (Text.splitOn sign s) with
    | error fault => rfl
    | ok items => exact congrArg some (lowered_ofItems items)
  have hlower (s : List Char) :
      seen (List.map DomainItem.lowered) (DomainItem.readAll (Text.splitOn sign (Text.lower s))) =
        seen (List.map DomainItem.lowered) (DomainItem.readAll (Text.splitOn sign s)) := by
    rw [Text.splitOn_lower hsign]
    rw [DomainItem.readAll_eq_mapM, DomainItem.readAll_eq_mapM]
    refine seen_mapM_congr DomainItem.lowered ?_
    rw [List.forall₂_map_left_iff, List.forall₂_same]
    exact fun item _ => DomainItem.seen_read_lower item
  rw [hitems, hitems, ← hlower s, h, hlower t]

end DomainScope

/-! ## Options -/

/-- Two options are the same, or lists of domains that are the same but for letter case. -/
inductive SameOption : List Char → List Char → Prop
  | same
      (option : List Char) :
      SameOption option option
  | list
      {name list list' : List Char}
      (hname : Modifier.isDomainName name)
      (hlist : Text.SameButCase list list') :
      SameOption (name ++ '=' :: list) (name ++ '=' :: list')

theorem Text.nameAndValue_append_cons
    {name : List Char}
    (h : '=' ∉ name)
    (value : List Char) :
    nameAndValue (name ++ '=' :: value) = (name, value) := by
  rw [nameAndValue, breakAt?_append_cons h]
  rfl

namespace Modifier

theorem isDomainName_iff
    {name : List Char} :
    isDomainName name ↔ name = "domain".toList ∨ name = "from".toList := by
  simp only [isDomainName, Bool.or_eq_true, beq_iff_eq, ← String.toList_inj, String.toList_ofList]

theorem eq_notMem_of_isDomainName
    {name : List Char}
    (h : isDomainName name) :
    '=' ∉ name := by
  rcases isDomainName_iff.mp h with rfl | rfl <;> decide

/-- The modifier with its domains in small letters. -/
def lowered : Modifier → Modifier
  | domains scope => domains scope.lowered
  | m => m

theorem seen_parse_list
    [DomainEncoder]
    (version : HostVersion)
    {name : List Char}
    (hname : isDomainName name)
    (list : List Char) :
    seen lowered (parse version (name ++ '=' :: list)) =
      if list.isEmpty then none
      else (seen DomainScope.lowered (DomainScope.ofList '|' list)).map domains := by
  have hfiller : isFiller name = false := by
    rcases isDomainName_iff.mp hname with rfl | rfl <;> rfl
  rw [parse, Text.nameAndValue_append_cons (eq_notMem_of_isDomainName hname)]
  simp only [hfiller, hname, if_true, Bool.false_eq_true, if_false]
  split
  · rfl
  · cases DomainScope.ofList '|' list <;> rfl

theorem seen_parse_congr
    [DomainEncoder]
    [DomainEncoder.IsCaseBlind]
    (version : HostVersion)
    {option option' : List Char}
    (h : SameOption option option') :
    seen lowered (parse version option) = seen lowered (parse version option') := by
  cases h with
  | same => rfl
  | list hname hlist =>
      rw [seen_parse_list version hname, seen_parse_list version hname, hlist.isEmpty_eq,
        DomainScope.seen_ofList_congr (by decide) hlist]

theorem seen_parseAll_congr
    [DomainEncoder]
    [DomainEncoder.IsCaseBlind]
    (version : HostVersion)
    {options options' : List (List Char)}
    (h : List.Forall₂ SameOption options options') :
    seen (List.map lowered) (parseAll version options) =
      seen (List.map lowered) (parseAll version options') := by
  rw [parseAll_eq_mapM, parseAll_eq_mapM]
  exact seen_mapM_congr lowered (h.imp fun _ _ => seen_parse_congr version)

end Modifier

/-! ## Network rules -/

/-- The header with its domains in small letters and without its text. -/
def Header.lowered (header : Header) : Header :=
  { header with text := "", scope := header.scope.lowered }

namespace NetworkRule

/-- The rule with its domains in small letters and without its text. -/
def lowered (rule : NetworkRule) : NetworkRule := { rule with header := rule.header.lowered }

theorem lowered_apply
    (m : Modifier)
    (rule : NetworkRule) :
    (m.apply rule).lowered = m.lowered.apply rule.lowered := by
  cases m with
  | domains scope => simp [Modifier.apply, Modifier.lowered, lowered, Header.lowered]
  | contentType t negated => cases negated <;> rfl
  | _ => rfl

theorem lowered_modify
    (ms : List Modifier)
    (rule : NetworkRule) :
    (rule.modify ms).lowered = rule.lowered.modify (ms.map Modifier.lowered) := by
  induction ms generalizing rule with
  | nil => rfl
  | cons m ms ih => exact (ih (m.apply rule)).trans (by rw [lowered_apply]; rfl)

theorem lowered_narrowToDocuments
    (rule : NetworkRule) :
    rule.narrowToDocuments.lowered = rule.lowered.narrowToDocuments := by
  unfold narrowToDocuments
  split
  · next h => exact (if_pos h).symm
  · next h => exact (if_neg h).symm

theorem seen_withPattern
    [DomainEncoder]
    (rule : NetworkRule)
    (pattern : String) :
    seen lowered (rule.withPattern pattern) = (rule.lowered.withPattern pattern).toOption := by
  unfold withPattern
  cases Pattern.literalRegex? pattern with
  | some body => rfl
  | none =>
      cases Pattern.encodeHost pattern with
      | none => rfl
      | some pattern =>
          dsimp only
          split
          · rfl
          · cases Pattern.toRegex pattern <;> rfl

theorem seen_validate
    (rule : NetworkRule)
    (version : HostVersion) :
    seen lowered (rule.validate version) = (rule.lowered.validate version).toOption := by
  have hpermitted : rule.lowered.header.scope.permitted.isEmpty =
      rule.header.scope.permitted.isEmpty :=
    List.isEmpty_map
  have hwide : rule.lowered.isTooWide = rule.isTooWide := by
    rw [isTooWide, isTooWide, hpermitted]
    rfl
  have hframe : rule.lowered.lacksFrameScope version = rule.lacksFrameScope version := by
    rw [lacksFrameScope, lacksFrameScope, hpermitted]
    rfl
  have hregex : rule.lowered.checkRegex = rule.checkRegex := rfl
  have hoptions : (!rule.lowered.header.isException && rule.lowered.options.hasAny exceptionOnly) =
      (!rule.header.isException && rule.options.hasAny exceptionOnly) := rfl
  unfold validate
  rw [hwide, hframe, hregex, hoptions]
  split
  · rfl
  · cases rule.checkRegex with
    | error e => rfl
    | ok =>
        dsimp only
        split
        · rfl
        · split <;> rfl

/-- What a rule comes to when its options change it as these modifiers say. -/
def ofModifiers
    [DomainEncoder]
    (version : HostVersion)
    (isException : Bool)
    (pattern : List Char)
    (ms : List Modifier) :
    Option NetworkRule :=
  ((((blank "" isException).modify ms).narrowToDocuments).withPattern
    (String.ofList pattern)).toOption.bind fun rule => (rule.validate version).toOption

/-- **Only the domains of a rule keep the letter case of its options.** -/
theorem seen_parse
    [DomainEncoder]
    (version : HostVersion)
    {line : String}
    (hline : line ≠ "") :
    seen lowered (parse version line) =
      (seen (List.map Modifier.lowered) (Modifier.parseAll version
        (optionTexts (RuleParts.ofLine line.toList).options))).bind
          (ofModifiers version (RuleParts.ofLine line.toList).isException
            (RuleParts.ofLine line.toList).pattern) := by
  rw [parse, if_neg hline]
  dsimp only
  cases Modifier.parseAll version (optionTexts (RuleParts.ofLine line.toList).options) with
  | error e => rfl
  | ok ms =>
      obtain ⟨isException, pattern, options⟩ := RuleParts.ofLine line.toList
      have hblank : (blank line isException).lowered = blank "" isException := rfl
      have hpattern := seen_withPattern (((blank line isException).modify ms).narrowToDocuments)
        (String.ofList pattern)
      rw [lowered_narrowToDocuments, lowered_modify, hblank] at hpattern
      rw [seen_ok, Option.bind_some, ofModifiers, ← hpattern]
      dsimp only
      cases (((blank line isException).modify ms).narrowToDocuments).withPattern
          (String.ofList pattern) with
      | error e => rfl
      | ok rule => exact seen_validate rule version

end NetworkRule

/-! ## Cosmetic rules -/

namespace PageCondition

/-- The condition with its domains in small letters. -/
def lowered : PageCondition → PageCondition
  | domains scope => domains scope.lowered
  | path condition => path condition

theorem seen_parse_list
    [DomainEncoder]
    {name : List Char}
    (hname : Modifier.isDomainName name)
    (list : List Char) :
    seen lowered (parse (name ++ '=' :: list)) =
      if list.isEmpty then none
      else (seen DomainScope.lowered (DomainScope.ofList '|' list)).map domains := by
  rw [parse, Text.nameAndValue_append_cons (Modifier.eq_notMem_of_isDomainName hname)]
  rcases Modifier.isDomainName_iff.mp hname with rfl | rfl
  all_goals
    simp only [String.ofList_toList]
    split
    · rfl
    · cases DomainScope.ofList '|' list <;> rfl

theorem seen_parse_congr
    [DomainEncoder]
    [DomainEncoder.IsCaseBlind]
    {option option' : List Char}
    (h : SameOption option option') :
    seen lowered (parse option) = seen lowered (parse option') := by
  cases h with
  | same => rfl
  | list hname hlist =>
      rw [seen_parse_list hname, seen_parse_list hname, hlist.isEmpty_eq,
        DomainScope.seen_ofList_congr (by decide) hlist]

theorem seen_parseAll_congr
    [DomainEncoder]
    [DomainEncoder.IsCaseBlind]
    {options options' : List (List Char)}
    (h : List.Forall₂ SameOption options options') :
    seen (List.map lowered) (parseAll options) = seen (List.map lowered) (parseAll options') := by
  rw [parseAll_eq_mapM, parseAll_eq_mapM]
  exact seen_mapM_congr lowered (h.imp fun _ _ => seen_parse_congr)

end PageCondition

namespace PageScope

/-- The scope with its domains in small letters. -/
def lowered (scope : PageScope) : PageScope := { scope with domains := scope.domains.lowered }

theorem lowered_add
    (scope : PageScope)
    (condition : PageCondition) :
    (scope.add condition).lowered = scope.lowered.add condition.lowered := by
  cases condition with
  | domains more => simp [add, lowered, PageCondition.lowered]
  | path condition => rfl

theorem lowered_foldl_add
    (conditions : List PageCondition)
    (scope : PageScope) :
    (conditions.foldl add scope).lowered =
      (conditions.map PageCondition.lowered).foldl add scope.lowered := by
  induction conditions generalizing scope with
  | nil => rfl
  | cons condition conditions ih =>
      rw [List.foldl_cons, ih, lowered_add, List.map_cons, List.foldl_cons]

theorem seen_addDomains
    [DomainEncoder]
    (scope : PageScope)
    (list : List Char) :
    seen lowered (scope.addDomains list) =
      (seen DomainScope.lowered (DomainScope.ofList ',' list)).map fun domains =>
        { scope.lowered with domains := scope.lowered.domains ++ domains } := by
  unfold addDomains
  cases DomainScope.ofList ',' list with
  | error fault => rfl
  | ok domains => simp [lowered]

/-- Lists of domains in front of a marker are read alike if they are the same but for
letter case. -/
theorem seen_parse_list_congr
    [DomainEncoder]
    [DomainEncoder.IsCaseBlind]
    {s t : List Char}
    (hs : s.head? ≠ some '[')
    (h : Text.SameButCase s t) :
    seen lowered (parse s) = seen lowered (parse t) := by
  have ht : t.head? ≠ some '[' := by
    rwa [Ne, ← h.head?_eq_some_iff (by decide)]
  have hstar (s : List Char) : Text.lower s = ['*'] ↔ s = ['*'] := by
    cases s with
    | nil => simp
    | cons c s => simp [Text.small_eq_iff (show Domain.isLetter '*' = false by decide)]
  have hcases : (s = [] ∨ s = ['*']) ↔ (t = [] ∨ t = ['*']) := by
    rw [h.eq_nil_iff, ← hstar, h, hstar]
  rw [parse_of_head?_ne hs, parse_of_head?_ne ht]
  simp only [hcases]
  split
  · rfl
  · rw [seen_addDomains, seen_addDomains, DomainScope.seen_ofList_congr (by decide) h]

/-- Lists of options and of domains in front of a marker are read alike. -/
theorem seen_ofOptionList_congr
    [DomainEncoder]
    [DomainEncoder.IsCaseBlind]
    {options options' : List Char}
    (hoptions : List.Forall₂ SameOption (Text.splitEscaped ',' options)
      (Text.splitEscaped ',' options'))
    {list list' : List Char}
    (hlist : Text.SameButCase list list') :
    seen lowered (ofOptionList options list) = seen lowered (ofOptionList options' list') := by
  have hview (options list : List Char) :
      seen lowered (ofOptionList options list) =
        (seen (List.map PageCondition.lowered)
          (PageCondition.parseAll (Text.splitEscaped ',' options))).bind fun conditions =>
            let scope := conditions.foldl add everywhere
            if list.isEmpty then some scope
            else (seen DomainScope.lowered (DomainScope.ofList ',' list)).map fun domains =>
              { scope with domains := scope.domains ++ domains } := by
    unfold ofOptionList
    cases PageCondition.parseAll (Text.splitEscaped ',' options) with
    | error e => rfl
    | ok conditions =>
        have hfold : (conditions.foldl add everywhere).lowered =
            (conditions.map PageCondition.lowered).foldl add everywhere :=
          lowered_foldl_add conditions everywhere
        rw [seen_ok, Option.bind_some, ← hfold]
        dsimp only
        split
        · rfl
        · exact seen_addDomains _ list
  rw [hview, hview, PageCondition.seen_parseAll_congr hoptions, hlist.isEmpty_eq,
    DomainScope.seen_ofList_congr (by decide) hlist]

end PageScope

namespace CosmeticRule

/-- The rule with its domains in small letters and without its text. -/
def lowered (rule : CosmeticRule) : CosmeticRule := { rule with header := rule.header.lowered }

theorem seen_validate
    (rule : CosmeticRule) :
    seen lowered (validate rule) = (validate rule.lowered).toOption := by
  have hstyle : rule.lowered.kind = rule.kind ∧ rule.lowered.content = rule.content ∧
      rule.lowered.header.isException = rule.header.isException ∧ rule.lowered.path = rule.path :=
    ⟨rfl, rfl, rfl, rfl⟩
  unfold validate
  rw [hstyle.1, hstyle.2.1, hstyle.2.2.1, hstyle.2.2.2]
  split
  · rfl
  · split <;> rfl

/-- **Only the domains of a rule keep the letter case of what is in front of its marker.** -/
theorem seen_ofCut_congr
    [DomainEncoder]
    (version : HostVersion)
    (line line' : String)
    {marker : Marker}
    {domains domains' : List Char}
    (h : seen PageScope.lowered (PageScope.parse domains) =
      seen PageScope.lowered (PageScope.parse domains'))
    (content : List Char) :
    seen lowered (ofCut version line ⟨domains, marker, content⟩) =
      seen lowered (ofCut version line' ⟨domains', marker, content⟩) := by
  have hview (line : String) (domains : List Char) :
      seen lowered (ofCut version line ⟨domains, marker, content⟩) =
        if content.isEmpty then none
        else
          marker.kind?.bind fun kind =>
            (readCall kind (String.ofList content)).toOption.bind fun isScriptlet =>
              (seen PageScope.lowered (PageScope.parse domains)).bind fun scope =>
                (validate
                  { header :=
                      { text := "", isException := marker.isException, isImportant := false,
                        scope := scope.domains }
                    content := String.ofList content
                    kind
                    isExtended := marker.isExtended || Selector.isExtended version content
                    isScriptlet
                    path := scope.path }).toOption := by
    unfold ofCut
    dsimp only
    split
    · rfl
    · cases marker.kind? with
      | none => rfl
      | some kind =>
          rw [Option.bind_some]
          dsimp only
          cases readCall kind (String.ofList content) with
          | error e => rfl
          | ok isScriptlet =>
              dsimp only
              cases PageScope.parse domains with
              | error e => rfl
              | ok scope => exact seen_validate _
  rw [hview, hview, h]

end CosmeticRule
end FilterCompiler
