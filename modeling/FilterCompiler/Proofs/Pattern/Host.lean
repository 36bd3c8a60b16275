import FilterCompiler.Pattern.Basic
import FilterCompiler.Proofs.Pattern.HostCut

/-!
# The host of a pattern

A pattern is cut at its host without loss: what stands before the host, the host and what
stands after it make up the pattern (`eq_append_of_splitHost?`).  A host that is to be encoded
is found at its place first (`breakOn?_host`), so it is the host that is replaced.  What takes
its place has no slash at its ends, so the pattern begins and ends with a slash only if it did
before.  Hence a pattern becomes no regex by the encoding of its host
(`isLiteralRegex_of_encodeHostWith`).
-/

namespace FilterCompiler

/-! ## Names that look like a host -/

/-- A name that looks like a host has no slash at its ends. -/
theorem Domain.exists_of_looksLikeHost
    {domain : String}
    (h : looksLikeHost domain) :
    ∃ first between last, domain.toList = first :: (between ++ [last]) ∧
      first ≠ '/' ∧ last ≠ '/' := by
  unfold looksLikeHost at h
  split at h
  · cases h
  next host tld hbreak =>
  simp only [Bool.and_eq_true, decide_eq_true_eq, List.all_eq_true] at h
  obtain ⟨⟨⟨⟨⟨⟨-, -⟩, hfirst⟩, -⟩, -⟩, hletter⟩, htld⟩ := h
  cases host with
  | nil => cases hfirst
  | cons first host =>
      have hne : tld ≠ [] := by
        rintro rfl
        cases hletter
      refine ⟨first, host ++ '.' :: tld.dropLast, tld.getLast hne, ?_, ?_, ?_⟩
      · rw [Text.breakAtLast?_eq_some hbreak, List.append_assoc, List.cons_append,
          List.cons_append, List.dropLast_concat_getLast]
      · rintro rfl
        cases hfirst
      · intro hlast
        have hchar := htld _ (List.getLast_mem hne)
        rw [hlast] at hchar
        cases hchar

namespace Pattern

/-! ## The place of the host -/

/-- A lead is ASCII, and its last character may not stand in a host. -/
theorem exists_concat_of_mem_leads
    {lead : List Char}
    (h : lead ∈ leads) :
    ∃ before c, lead = before ++ [c] ∧ isHostChar c = false ∧ lead.all Text.isAscii := by
  have hall : leads.all (fun lead =>
      lead.getLast?.any (!isHostChar ·) && lead.all Text.isAscii) = true := by
    decide
  have hlead := List.all_eq_true.mp hall lead h
  rw [Bool.and_eq_true, Option.any_eq_true] at hlead
  obtain ⟨⟨c, hlast, hc⟩, hascii⟩ := hlead
  obtain ⟨before, hbefore⟩ := List.getLast?_eq_some_iff.mp hlast
  exact ⟨before, c, hbefore, by simpa using hc, hascii⟩

/-- **A host with a character beyond ASCII is not found in front of its place.**  Whatever
begins in the lead holds the last character of the lead or is ASCII. -/
theorem breakOn?_host
    {pattern : List Char}
    {split : HostSplit}
    (h : IsHostCut pattern split)
    (hforeign : ¬ split.host.all Text.isAscii) :
    Text.breakOn? split.host pattern = some (split.lead, split.rest) := by
  rw [h.pattern_eq]
  rcases h.lead_mem with hnil | hlead
  · rw [hnil, List.nil_append, Text.breakOn?_append h.host_ne_nil]
  · obtain ⟨before, c, hconcat, hc, hascii⟩ := exists_concat_of_mem_leads hlead
    have hlast : c ∉ split.host := by
      intro hmem
      rw [h.host_char c hmem] at hc
      cases hc
    have hbefore : ¬ split.host <:+: before := by
      intro hcontained
      refine hforeign (List.all_eq_true.mpr fun d hd => List.all_eq_true.mp hascii d ?_)
      rw [hconcat]
      exact List.mem_append_left _ (hcontained.subset hd)
    rw [hconcat, List.append_assoc, List.singleton_append,
      Text.breakOn?_append_cons hlast hbefore, Text.breakOn?_append h.host_ne_nil]
    rfl

/-- The first occurrence of the host is the host. -/
theorem replaceFirst_host
    {pattern : List Char}
    {split : HostSplit}
    (h : IsHostCut pattern split)
    (hforeign : ¬ split.host.all Text.isAscii)
    (new : List Char) :
    Text.replaceFirst split.host new pattern = split.lead ++ (new ++ split.rest) := by
  rw [Text.replaceFirst, breakOn?_host h hforeign, ← List.append_assoc]

/-- A pattern in ASCII is left as it is. -/
theorem encodeHost_of_isAscii
    [DomainEncoder]
    {pattern : String}
    (h : ∀ c ∈ pattern.toList, Text.isAscii c) :
    encodeHost pattern = some pattern := by
  unfold encodeHost encodeHostWith
  split
  · rfl
  next split hsplit =>
  have hhost : split.host.all Text.isAscii := by
    rw [List.all_eq_true]
    intro c hc
    refine h c ?_
    rw [(eq_append_of_splitHost? hsplit).1]
    exact List.mem_append_right _ (List.mem_append_left _ hc)
  rw [if_pos hhost]

/-! ## Regexes between slashes -/

theorem literalRegex?_eq_some_iff
    {pattern body : String} :
    literalRegex? pattern = some body ↔
      body ≠ "" ∧ pattern.toList = '/' :: (body.toList ++ ['/']) := by
  unfold literalRegex?
  constructor
  · intro h
    split at h
    · next rest hpattern =>
        split at h
        · next body' hbreak =>
            rw [Option.ite_none_left_eq_some, List.isEmpty_iff] at h
            obtain ⟨hne, h⟩ := h
            cases h
            rw [String.toList_ofList, hpattern, Text.breakAtLast?_eq_some hbreak]
            exact ⟨fun h => hne (String.ofList_eq_empty_iff.mp h), rfl⟩
        · cases h
    · cases h
  · rintro ⟨hne, hpattern⟩
    rw [hpattern]
    simp only [Text.breakAtLast?_append_cons List.not_mem_nil, String.ofList_toList,
      List.isEmpty_iff, String.toList_eq_nil_iff, if_neg hne]

/-- A pattern is a regex if it stands between slashes. -/
theorem isLiteralRegex_iff
    {pattern : String} :
    isLiteralRegex pattern ↔ ∃ body, body ≠ [] ∧ pattern.toList = '/' :: (body ++ ['/']) := by
  rw [isLiteralRegex, Option.isSome_iff_exists]
  simp only [literalRegex?_eq_some_iff]
  constructor
  · rintro ⟨body, hne, hpattern⟩
    exact ⟨body.toList, mt String.toList_eq_nil_iff.mp hne, hpattern⟩
  · rintro ⟨body, hne, hpattern⟩
    exact ⟨String.ofList body, mt String.ofList_eq_empty_iff.mp hne, by simpa using hpattern⟩

/-- A pattern is a regex if slashes are its ends and something stands between them. -/
theorem isLiteralRegex_iff_ends
    {pattern : String} :
    isLiteralRegex pattern ↔
      3 ≤ pattern.toList.length ∧ pattern.toList.head? = some '/' ∧
        pattern.toList.getLast? = some '/' := by
  rw [isLiteralRegex_iff]
  constructor
  · rintro ⟨body, hne, hpattern⟩
    have hlength := List.length_pos_iff.mpr hne
    rw [hpattern, List.length_cons, List.length_append, List.length_singleton]
    exact ⟨by omega, rfl, by simp [List.getLast?_cons]⟩
  · rintro ⟨hlength, hhead, hlast⟩
    obtain ⟨s, hs⟩ := List.head?_eq_some_iff.mp hhead
    rw [hs] at hlength hlast
    rcases List.eq_nil_or_concat s with rfl | ⟨body, c, rfl⟩
    · simp at hlength
    · refine ⟨body, ?_, ?_⟩
      · rintro rfl
        simp at hlength
      · simpa [List.getLast?_cons, hs] using hlast

/-- A pattern without slashes is no regex. -/
theorem isLiteralRegex_of_notMem
    {pattern : String}
    (h : '/' ∉ pattern.toList) :
    isLiteralRegex pattern = false := by
  rw [← Bool.not_eq_true, isLiteralRegex_iff]
  rintro ⟨body, -, hpattern⟩
  exact h (hpattern ▸ List.mem_cons_self)

/-- The slashes at the ends of a text are not those of a part that has none at its ends. -/
theorem exists_slashes_around
    {lead between rest body : List Char}
    {first last : Char}
    (hfirst : first ≠ '/')
    (hlast : last ≠ '/')
    (h : lead ++ (first :: (between ++ [last]) ++ rest) = '/' :: (body ++ ['/'])) :
    ∃ lead' rest', lead = '/' :: lead' ∧ rest = rest' ++ ['/'] := by
  obtain ⟨lead', hlead⟩ : ∃ lead', lead = '/' :: lead' := by
    cases lead with
    | nil => exact absurd (List.cons.inj h).1 hfirst
    | cons c lead => exact ⟨lead, by rw [(List.cons.inj h).1]⟩
  obtain ⟨rest', hrest⟩ : ∃ rest', rest = rest' ++ ['/'] := by
    have hends := congrArg List.getLast? h
    rcases List.eq_nil_or_concat rest with rfl | ⟨rest', c, rfl⟩
    · have hslash : last = '/' := by
        simpa [List.getLast?_cons, List.getLast?_append] using hends
      exact absurd hslash hlast
    · have hslash : c = '/' := by
        simpa [List.getLast?_cons, List.getLast?_append] using hends
      exact ⟨rest', by rw [List.concat_eq_append, hslash]⟩
  exact ⟨lead', rest', hlead, hrest⟩

/-- **No pattern becomes a regex when its host is encoded.** -/
theorem isLiteralRegex_of_encodeHostWith
    {encode : String → Option String}
    {pattern encoded : String}
    (h : encodeHostWith encode pattern = some encoded)
    (hencoded : isLiteralRegex encoded) :
    isLiteralRegex pattern := by
  unfold encodeHostWith at h
  split at h
  · cases h
    exact hencoded
  next split hsplit =>
  split at h
  · cases h
    exact hencoded
  next hforeign =>
  split at h
  · cases h
  next host _ =>
  split at h
  case isFalse =>
    cases h
    exact hencoded
  case isTrue hlooks =>
    rw [replaceFirst_host (splitHost?_eq_some_iff.mp hsplit) hforeign] at h
    cases h
    obtain ⟨hpattern, hne⟩ := eq_append_of_splitHost? hsplit
    obtain ⟨first, between, last, hhost, hfirst, hlast⟩ := Domain.exists_of_looksLikeHost hlooks
    obtain ⟨body, -, hbody⟩ := isLiteralRegex_iff.mp hencoded
    rw [String.toList_ofList, hhost] at hbody
    rw [isLiteralRegex_iff, hpattern]
    obtain ⟨lead, rest, hlead, hrest⟩ := exists_slashes_around hfirst hlast hbody
    refine ⟨lead ++ (split.host ++ rest), by simp [hne], ?_⟩
    simp [hlead, hrest]

end Pattern
end FilterCompiler
