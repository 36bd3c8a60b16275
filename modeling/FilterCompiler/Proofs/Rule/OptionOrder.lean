import FilterCompiler.Proofs.Rule.Negation
import FilterCompiler.Proofs.Rule.Parts
import Mathlib.Data.List.Forall2

/-!
# The order of options

A line with its options in another order is read as the same rule, but for the order of the
domains (`parse_reordered`).  Options are read one by one, so what has to be shown is that
modifiers commute.  Those that set a party or the letter case do not, and may occur once.

The first content type takes the place of the set of all, which would be lost on a set that
has grown back to all.  No option permits documents, so a set in which types are permitted
lacks them and is never the set of all (`MayPermit`).
-/

namespace FilterCompiler

/-- Only the empty text has one piece without characters. -/
theorem Text.splitEscaped_eq_singleton_nil_iff
    (sep : Char)
    (s : List Char) :
    splitEscaped sep s = [[]] ↔ s = [] := by
  have hcons (c : Char) (pieces : List (List Char)) : consFirst c pieces ≠ [[]] := by
    cases pieces <;> simp [consFirst]
  fun_cases splitEscaped sep s
  · simp
  · simp
  · simp
  · simp [hcons]
  · simp [splitEscaped_ne_nil]
  · simp [hcons]

/-! ## Content types -/

namespace ContentTypes

theorem has_or
    (s s' : ContentTypes)
    (t : ContentType) :
    (s ||| s').has t = (s.has t || s'.has t) :=
  BitVec.getLsbD_or

theorem ne_all_of_lacks_document
    {s : ContentTypes}
    (h : s.has .document = false) :
    s ≠ .all := by
  rintro rfl
  cases h

/-- One more content type may be permitted: all are, or documents are not. -/
def MayPermit (s : ContentTypes) : Prop := s = .all ∨ s.has .document = false

end ContentTypes

namespace Modifier

theorem has_document_permitType
    {s : ContentTypes}
    {t : ContentType}
    (hs : s.MayPermit)
    (ht : t ≠ .document) :
    (permitType s t).has .document = false := by
  have honly : ContentTypes.has t.only .document = false := by
    cases t <;> first | rfl | exact absurd rfl ht
  rw [permitType, ContentTypes.has_or, honly, Bool.or_false]
  split
  · rfl
  · next hall => exact hs.resolve_left hall

theorem permitType_comm
    {s : ContentTypes}
    {t t' : ContentType}
    (hs : s.MayPermit)
    (ht : t ≠ .document)
    (ht' : t' ≠ .document) :
    permitType (permitType s t) t' = permitType (permitType s t') t := by
  have hadd {t t' : ContentType} (ht : t ≠ .document) :
      permitType (permitType s t) t' = (if s = .all then .none else s) ||| t.only ||| t'.only := by
    have hsome := ContentTypes.ne_all_of_lacks_document (has_document_permitType hs ht)
    rw [permitType, if_neg hsome, permitType]
  rw [hadd ht, hadd ht', BitVec.or_assoc, BitVec.or_assoc, BitVec.or_comm t.only]

/-! ## Modifiers -/

/-- The modifier sets the party. -/
def setsParty : Modifier → Bool
  | party _ => true
  | _ => false

/-- The modifier sets whether letter case counts. -/
def setsCase : Modifier → Bool
  | matchCase _ => true
  | _ => false

/-- The modifier permits or restricts documents. -/
def isAboutDocuments : Modifier → Bool
  | contentType t _ => t == .document
  | _ => false

/-- Of these modifiers at most one sets the party and at most one the letter case, and none
is about documents. -/
structure AreOrderless (ms : List Modifier) : Prop where
  party : ms.countP setsParty ≤ 1
  matchCase : ms.countP setsCase ≤ 1
  types : ∀ m ∈ ms, m.isAboutDocuments = false

variable {ms ms' : List Modifier}

theorem AreOrderless.of_sublist
    (h : AreOrderless ms)
    (hms : ms'.Sublist ms) :
    AreOrderless ms' where
  party := Nat.le_trans hms.countP_le h.party
  matchCase := Nat.le_trans hms.countP_le h.matchCase
  types m hm := h.types m (hms.subset hm)

theorem AreOrderless.perm
    (h : AreOrderless ms)
    (hms : ms.Perm ms') :
    AreOrderless ms' where
  party := hms.countP_eq _ ▸ h.party
  matchCase := hms.countP_eq _ ▸ h.matchCase
  types m hm := h.types m (hms.mem_iff.mpr hm)

/-! ## Options -/

/-- The option names a party. -/
def namesParty (option : List Char) : Bool :=
  (Party.ofName? (String.ofList (Text.nameAndValue option).1)).isSome

/-- The option says whether letter case counts. -/
def namesCase (option : List Char) : Bool :=
  (Text.nameAndValue option).1 ∈ ["match-case".toList, "~match-case".toList]

variable {version : HostVersion} {option : List Char} {m : Modifier}

/-- No name is that of the content type of documents. -/
theorem ofName?_ne_document
    (name : String) :
    ContentType.ofName? name ≠ some .document := by
  intro h
  unfold ContentType.ofName? at h
  split at h <;> cases h

/-- **What the name of an option says of its modifier.** -/
theorem kind_of_ofName
    (h : ofName version (Text.nameAndValue option).1 = .ok m) :
    (m.setsParty → namesParty option) ∧ (m.setsCase → namesCase option) ∧
      m.isAboutDocuments = false := by
  have hname (text : String) (h : String.ofList (Text.nameAndValue option).1 = text) :
      (Text.nameAndValue option).1 = text.toList := by
    rw [← h, String.toList_ofList]
  unfold ofName at h
  split at h
  · cases h
    simp [setsParty, setsCase, isAboutDocuments]
  · next hcase =>
      cases h
      simp [setsParty, setsCase, isAboutDocuments, namesCase, hname _ hcase]
  · next hcase =>
      cases h
      simp [setsParty, setsCase, isAboutDocuments, namesCase, hname _ hcase]
  · cases h
    simp [setsParty, setsCase, isAboutDocuments]
  · cases h
    simp [setsParty, setsCase, isAboutDocuments]
  split at h
  · next hparty =>
      cases h
      simp [setsParty, setsCase, isAboutDocuments, namesParty, hparty]
  · cases h
    simp [setsParty, setsCase, isAboutDocuments]
  · obtain ⟨t, ht, -, rfl⟩ := ofTypeName_eq_ok_iff.mp h
    have hne : t ≠ .document := by
      rintro rfl
      exact ofName?_ne_document _ ht
    simp [setsParty, setsCase, isAboutDocuments, hne]

theorem kind_of_parse
    (h : parse version option = .ok m) :
    (m.setsParty → namesParty option) ∧ (m.setsCase → namesCase option) ∧
      m.isAboutDocuments = false := by
  rcases (parse_eq_ok_iff rfl).mp h with ⟨-, rfl⟩ | ⟨-, ⟨-, -, scope, -, rfl⟩ | ⟨-, -, hname⟩⟩
  · simp [setsParty, setsCase, isAboutDocuments]
  · simp [setsParty, setsCase, isAboutDocuments]
  · exact kind_of_ofName hname

/-- Modifiers set no more parties and letter cases than their options name. -/
theorem countP_le_of_parseAll
    {options : List (List Char)}
    {ms : List Modifier}
    (h : List.Forall₂ (fun option m => parse version option = .ok m) options ms) :
    ms.countP setsParty ≤ options.countP namesParty ∧
      ms.countP setsCase ≤ options.countP namesCase ∧
      ∀ m ∈ ms, m.isAboutDocuments = false := by
  have hone {sets names : Bool} (h : sets → names) :
      (if sets then 1 else 0) ≤ if names then 1 else 0 := by
    cases sets <;> cases names <;> simp_all
  induction h with
  | nil => simp
  | cons hfirst _ ih =>
      obtain ⟨hparty, hcase, htypes⟩ := kind_of_parse hfirst
      obtain ⟨hparties, hcases, hrest⟩ := ih
      simp only [List.countP_cons]
      exact ⟨Nat.add_le_add hparties (hone hparty), Nat.add_le_add hcases (hone hcase),
        List.forall_mem_cons.mpr ⟨htypes, hrest⟩⟩

end Modifier

namespace NetworkRule

variable {rule rule' : NetworkRule}

/-! ## Rules that are the same but for the order of domains -/

theorem IsReordered.of_scope
    (rule : NetworkRule)
    (text : String)
    {scope : DomainScope}
    (hpermitted : scope.permitted.Perm rule.header.scope.permitted)
    (hrestricted : scope.restricted.Perm rule.header.scope.restricted) :
    rule.IsReordered { rule with header := { rule.header with text, scope } } :=
  ⟨hpermitted, hrestricted, rfl⟩

theorem IsReordered.exists_scope
    (h : rule.IsReordered rule') :
    ∃ text scope, scope.permitted.Perm rule.header.scope.permitted ∧
      scope.restricted.Perm rule.header.scope.restricted ∧
      rule' = { rule with header := { rule.header with text, scope } } :=
  ⟨_, _, h.permitted, h.restricted, h.otherwise⟩

theorem IsReordered.refl
    (rule : NetworkRule) :
    rule.IsReordered rule :=
  .of_scope rule rule.header.text (.refl _) (.refl _)

theorem IsReordered.trans
    {rule'' : NetworkRule}
    (h : rule.IsReordered rule')
    (h' : rule'.IsReordered rule'') :
    rule.IsReordered rule'' := by
  obtain ⟨text, scope, hpermitted, hrestricted, rfl⟩ := h.exists_scope
  obtain ⟨text', scope', hpermitted', hrestricted', rfl⟩ := h'.exists_scope
  exact .of_scope rule text' (hpermitted'.trans hpermitted) (hrestricted'.trans hrestricted)

/-! ## Modifiers in another order -/

theorem IsReordered.apply
    (h : rule.IsReordered rule')
    (m : Modifier) :
    (m.apply rule).IsReordered (m.apply rule') := by
  obtain ⟨text, scope, hpermitted, hrestricted, rfl⟩ := h.exists_scope
  cases m with
  | domains added =>
      exact ⟨hpermitted.append_right _, hrestricted.append_right _, rfl⟩
  | contentType t negated => cases negated <;> exact ⟨hpermitted, hrestricted, rfl⟩
  | _ => exact ⟨hpermitted, hrestricted, rfl⟩

theorem IsReordered.modify
    (h : rule.IsReordered rule')
    (ms : List Modifier) :
    (rule.modify ms).IsReordered (rule'.modify ms) := by
  induction ms generalizing rule rule' with
  | nil => exact h
  | cons m ms ih => exact ih (h.apply m)

theorem mayPermit_apply
    {m : Modifier}
    (hrule : rule.permitted.MayPermit)
    (hm : m.isAboutDocuments = false) :
    (m.apply rule).permitted.MayPermit := by
  cases m with
  | contentType t negated =>
      cases negated with
      | true => exact hrule
      | false => exact .inr (Modifier.has_document_permitType hrule (by rintro rfl; cases hm))
  | _ => exact hrule

/-- **Two modifiers commute**, but for the order of domains. -/
theorem isReordered_apply_apply
    {m m' : Modifier}
    (h : Modifier.AreOrderless [m, m'])
    (hrule : rule.permitted.MayPermit) :
    (m'.apply (m.apply rule)).IsReordered (m.apply (m'.apply rule)) := by
  obtain ⟨hparty, hcase, htypes⟩ := h
  rcases m with _ | on | _ | _ | scope | p | o | ⟨t, _ | _⟩ <;>
    rcases m' with _ | on' | _ | _ | scope' | p' | o' | ⟨t', _ | _⟩
  -- what is left are pairs of the same kind
  any_goals exact .refl _
  case matchCase.matchCase => exact absurd hcase (Nat.not_succ_le_self 1)
  case party.party => exact absurd hparty (Nat.not_succ_le_self 1)
  case domains.domains =>
    have hswap (old added added' : List String) :
        (old ++ added' ++ added).Perm (old ++ added ++ added') := by
      rw [List.append_assoc, List.append_assoc]
      exact List.perm_append_comm.append_left old
    exact ⟨hswap _ _ _, hswap _ _ _, rfl⟩
  case page.page =>
    simp only [Modifier.apply, BitVec.or_assoc, BitVec.or_comm o'.only]
    exact .refl _
  case contentType.true.contentType.true =>
    simp only [Modifier.apply, BitVec.or_assoc, BitVec.or_comm t'.only]
    exact .refl _
  case contentType.false.contentType.false =>
    have hnot {t : ContentType} (ht : Modifier.isAboutDocuments (.contentType t false) = false) :
        t ≠ .document := by
      rintro rfl
      cases ht
    have ht := hnot (htypes _ List.mem_cons_self)
    have ht' := hnot (htypes _ (List.mem_cons_of_mem _ List.mem_cons_self))
    simp only [Modifier.apply, Modifier.permitType_comm hrule ht ht']
    exact .refl _

/-- **Modifiers change a rule in any order.** -/
theorem isReordered_modify_of_perm
    {ms ms' : List Modifier}
    (hms : ms.Perm ms')
    (h : Modifier.AreOrderless ms)
    (hrule : rule.permitted.MayPermit) :
    (rule.modify ms).IsReordered (rule.modify ms') := by
  induction hms generalizing rule with
  | nil => exact .refl _
  | cons m _ ih =>
      refine ih (h.of_sublist (List.sublist_cons_self _ _)) ?_
      exact mayPermit_apply hrule (h.types m List.mem_cons_self)
  | swap m m' ms =>
      have hpair : [m', m].Sublist (m' :: m :: ms) := ((List.nil_sublist ms).cons_cons m).cons_cons m'
      exact (isReordered_apply_apply (h.of_sublist hpair) hrule).modify ms
  | trans hfirst _ ih ih' => exact (ih h hrule).trans (ih' (h.perm hfirst) hrule)

/-! ## Lines with their options in another order -/

theorem IsReordered.narrowToDocuments
    (h : rule.IsReordered rule') :
    rule.narrowToDocuments.IsReordered rule'.narrowToDocuments := by
  obtain ⟨text, scope, hpermitted, hrestricted, rfl⟩ := h.exists_scope
  unfold NetworkRule.narrowToDocuments
  dsimp only
  split
  · exact ⟨hpermitted, hrestricted, rfl⟩
  · exact ⟨hpermitted, hrestricted, rfl⟩

theorem IsReordered.withPattern
    {set : NetworkRule}
    {pattern : String}
    (h : rule.IsReordered rule')
    (hset : rule.withPattern pattern = .ok set) :
    ∃ set', rule'.withPattern pattern = .ok set' ∧ set.IsReordered set' := by
  refine ⟨_, withPattern_congr hset rule', ?_⟩
  obtain ⟨text, scope, hpermitted, hrestricted, rfl⟩ := h.exists_scope
  rw [eq_of_withPattern hset]
  exact ⟨hpermitted, hrestricted, rfl⟩

theorem IsReordered.validate
    {version : HostVersion}
    (h : rule.IsReordered rule')
    (hvalid : rule.validate version = .ok rule) :
    rule'.validate version = .ok rule' := by
  obtain ⟨text, scope, hpermitted, -, rfl⟩ := h.exists_scope
  obtain ⟨-, hwide, hregex, hoptions, hframes⟩ := validate_eq_ok_iff.mp hvalid
  refine validate_eq_ok_iff.mpr ⟨rfl, ?_, hregex, hoptions, ?_⟩
  · rwa [isTooWide, hpermitted.isEmpty_eq]
  · rwa [lacksFrameScope, hpermitted.isEmpty_eq]

theorem optionTexts_sublist
    (options : List Char) :
    (optionTexts (some options)).Sublist (Text.splitEscaped ',' options) := by
  cases options with
  | nil => exact List.nil_sublist _
  | cons c options => exact .refl _

theorem optionTexts_perm
    {options options' : List Char}
    (h : (Text.splitEscaped ',' options).Perm (Text.splitEscaped ',' options')) :
    (optionTexts (some options)).Perm (optionTexts (some options')) := by
  have hempty : options = [] ↔ options' = [] := by
    rw [← Text.splitEscaped_eq_singleton_nil_iff ',' options,
      ← Text.splitEscaped_eq_singleton_nil_iff ',' options']
    constructor
    · intro hnil
      exact (List.singleton_perm.mp (hnil ▸ h)).symm
    · intro hnil
      exact List.perm_singleton.mp (hnil ▸ h)
  cases options with
  | nil =>
      rw [hempty.mp rfl]
  | cons c options =>
      obtain ⟨c', rest, rfl⟩ := List.exists_cons_of_ne_nil (mt hempty.mpr (List.cons_ne_nil _ _))
      exact h

variable {version : HostVersion} {line line' : String} {isException : Bool}
  {pattern options options' : List Char}

theorem exists_parse_of_perm
    (hline : RuleParts.ofLine line.toList = { isException, pattern, options := some options })
    (hline' : RuleParts.ofLine line'.toList = { isException, pattern, options := some options' })
    (hoptions : (Text.splitEscaped ',' options).Perm (Text.splitEscaped ',' options'))
    (hparty : (Text.splitEscaped ',' options).countP Modifier.namesParty ≤ 1)
    (hcase : (Text.splitEscaped ',' options).countP Modifier.namesCase ≤ 1)
    (h : parse version line = .ok rule) :
    ∃ rule', parse version line' = .ok rule' ∧ rule.IsReordered rule' := by
  obtain ⟨-, ms, hms, hpattern, hvalid⟩ := parse_eq_ok_iff.mp h
  rw [hline] at hms hpattern
  have hread := Modifier.parseAll_eq_ok_iff.mp hms
  obtain ⟨ms', hread', hperm⟩ := List.perm_comp_forall₂ (optionTexts_perm hoptions).symm hread
  have horderless : Modifier.AreOrderless ms := by
    have htexts := optionTexts_sublist options
    obtain ⟨hparties, hcases, htypes⟩ := Modifier.countP_le_of_parseAll hread
    exact ⟨Nat.le_trans hparties (Nat.le_trans htexts.countP_le hparty),
      Nat.le_trans hcases (Nat.le_trans htexts.countP_le hcase), htypes⟩
  have hmodified : (ofModified line ms).IsReordered (ofModified line' ms') := by
    rw [ofModified, ofModified, hline, hline']
    have htext : (blank line isException).IsReordered (blank line' isException) :=
      .of_scope _ line' (.refl _) (.refl _)
    have hsteps : ((blank line isException).modify ms).IsReordered
        ((blank line isException).modify ms') :=
      isReordered_modify_of_perm hperm.symm horderless (.inl rfl)
    exact (hsteps.trans (htext.modify ms')).narrowToDocuments
  obtain ⟨rule', hpattern', hreordered⟩ := hmodified.withPattern hpattern
  refine ⟨rule', parse_eq_ok_iff.mpr ⟨?_, ms', ?_, ?_, hreordered.validate hvalid⟩, hreordered⟩
  · rintro rfl
    cases hline'
  · rw [hline']
    exact Modifier.parseAll_eq_ok_iff.mpr hread'
  · rw [hline']
    exact hpattern'

/-- **The order of options does not matter.**  Two lines with the same pattern and the same
options in another order, of which at most one names a party and at most one says whether
letter case counts, are both read or both refused, and they are read as rules that are the
same but for their texts and the order of their domains. -/
theorem parse_reordered
    (version : HostVersion)
    (hline : RuleParts.ofLine line.toList = { isException, pattern, options := some options })
    (hline' : RuleParts.ofLine line'.toList = { isException, pattern, options := some options' })
    (hoptions : (Text.splitEscaped ',' options).Perm (Text.splitEscaped ',' options'))
    (hparty : (Text.splitEscaped ',' options).countP Modifier.namesParty ≤ 1)
    (hcase : (Text.splitEscaped ',' options).countP Modifier.namesCase ≤ 1) :
    ((∃ rule, parse version line = .ok rule) ↔ ∃ rule', parse version line' = .ok rule') ∧
      ∀ rule rule', parse version line = .ok rule → parse version line' = .ok rule' →
        rule.IsReordered rule' := by
  have hforth {rule : NetworkRule} (h : parse version line = .ok rule) :=
    exists_parse_of_perm hline hline' hoptions hparty hcase h
  have hback {rule : NetworkRule} (h : parse version line' = .ok rule) :=
    exists_parse_of_perm hline' hline hoptions.symm (hoptions.countP_eq _ ▸ hparty)
      (hoptions.countP_eq _ ▸ hcase) h
  refine ⟨⟨?_, ?_⟩, ?_⟩
  · rintro ⟨rule, hrule⟩
    obtain ⟨rule', hrule', -⟩ := hforth hrule
    exact ⟨rule', hrule'⟩
  · rintro ⟨rule', hrule'⟩
    obtain ⟨rule, hrule, -⟩ := hback hrule'
    exact ⟨rule, hrule⟩
  · intro rule rule' hrule hrule'
    obtain ⟨found, hfound, hreordered⟩ := hforth hrule
    rw [hrule'] at hfound
    cases hfound
    exact hreordered

/-- An exception whose options are of every kind; one of them has an escaped comma in it. -/
theorem parse_reordered_exception :
    let line :=
      "@@||ads.example^$script,3p,domain=b.com|~c.com,image,match-case,~media,from=a\\,b,elemhide"
    let line' :=
      "@@||ads.example^$elemhide,from=a\\,b,~media,domain=b.com|~c.com,match-case,image,3p,script"
    let options := (line.toList.drop 17)
    let options' := (line'.toList.drop 17)
    let parts : RuleParts :=
      { isException := true, pattern := "||ads.example^".toList, options := some options }
    RuleParts.ofLine line.toList = parts ∧
      RuleParts.ofLine line'.toList = { parts with options := some options' } ∧
      (Text.splitEscaped ',' options).Perm (Text.splitEscaped ',' options') ∧
      (Text.splitEscaped ',' options).countP Modifier.namesParty ≤ 1 ∧
      (Text.splitEscaped ',' options).countP Modifier.namesCase ≤ 1 ∧
      (∃ rule, parse .v13 line = .ok rule) ∧
      ((∃ rule, parse .v13 line = .ok rule) ↔ ∃ rule', parse .v13 line' = .ok rule') ∧
      ∀ rule rule', parse .v13 line = .ok rule → parse .v13 line' = .ok rule' →
        rule.IsReordered rule' := by
  intro line line' options options' parts
  have hline : RuleParts.ofLine line.toList = parts := by decide +kernel
  have hline' : RuleParts.ofLine line'.toList = { parts with options := some options' } := by
    decide +kernel
  have hoptions : (Text.splitEscaped ',' options).Perm (Text.splitEscaped ',' options') := by
    decide +kernel
  have hparty : (Text.splitEscaped ',' options).countP Modifier.namesParty ≤ 1 := by
    decide +kernel
  have hcase : (Text.splitEscaped ',' options).countP Modifier.namesCase ≤ 1 := by
    decide +kernel
  have hrule : (parse .v13 line).isOk := by decide +kernel
  refine ⟨hline, hline', hoptions, hparty, hcase, ?_,
    parse_reordered .v13 hline hline' hoptions hparty hcase⟩
  cases hparse : parse .v13 line with
  | ok rule => exact ⟨rule, rfl⟩
  | error e =>
      rw [hparse] at hrule
      cases hrule

end NetworkRule
end FilterCompiler
