import FilterCompiler.Proofs.Pattern.Host
import FilterCompiler.Proofs.Pattern.HostAnchor

/-!
# What the encoding of a host changes

A pattern is refused if its host cannot be encoded, and left as it is if the host is ASCII
or its encoded form is no host name.  Otherwise the encoded form takes the place of the
host, and everything in front of it and behind it stays (`encodeHostWith_of_foreign`).  The
new pattern begins with the same lead: no lead goes on another one, and a lead does not
begin with a name that has a dot.  So it is cut at the encoded form (`host_eq_of_isHostCut`),
which is ASCII, and encoding it again changes nothing (`encodeHostWith_rewrites`).
-/

namespace FilterCompiler

/-- A name that looks like a host has a dot, and no characters but those of names. -/
theorem Domain.isNameChar_of_looksLikeHost
    {domain : String}
    (h : looksLikeHost domain) :
    (∀ c ∈ domain.toList, isNameChar c) ∧ '.' ∈ domain.toList := by
  unfold looksLikeHost at h
  split at h
  · cases h
  next host tld hbreak =>
  simp only [Bool.and_eq_true, List.all_eq_true] at h
  obtain ⟨⟨⟨-, hhost⟩, -⟩, htld⟩ := h
  rw [Text.breakAtLast?_eq_some hbreak]
  refine ⟨?_, List.mem_append_right _ List.mem_cons_self⟩
  rw [List.forall_mem_append, List.forall_mem_cons]
  refine ⟨hhost, by decide, fun c hc => ?_⟩
  rw [isNameChar, htld c hc, Bool.true_or]

namespace Pattern

/-! ## Cutting at a name -/

theorem isHostChar_of_isNameChar
    {c : Char}
    (h : Domain.isNameChar c) :
    isHostChar c := by
  simp only [Domain.isNameChar, isHostChar, isHostStart, Bool.or_eq_true] at h ⊢
  exact h.imp_left fun h => h.imp_left .inl

/-- No lead goes on another one. -/
theorem eq_of_isPrefix_of_mem_leads
    {lead other : List Char}
    (hlead : lead ∈ leads)
    (hother : other ∈ leads)
    (h : lead <+: other) :
    lead = other := by
  have hall : ∀ lead ∈ leads, ∀ other ∈ leads, lead <+: other → lead = other := by decide
  exact hall lead hlead other hother h

/-- No lead begins with a name that has a dot. -/
theorem not_isPrefix_name
    {lead name : List Char}
    (hlead : lead ∈ leads)
    (hname : ∀ c ∈ name, Domain.isNameChar c)
    (hdot : '.' ∈ name)
    (rest : List Char) :
    ¬ lead <+: name ++ rest := by
  have hall : ∀ lead ∈ leads, '.' ∉ lead := by decide
  obtain ⟨label, labels, rfl⟩ := List.append_of_mem hdot
  rw [List.append_assoc, List.cons_append, Text.isPrefix_append_cons (hall lead hlead)]
  intro hinitial
  -- the last character of the lead would stand in the name
  obtain ⟨before, c, rfl, hc, -⟩ := exists_concat_of_mem_leads hlead
  have hmem : c ∈ label := hinitial.subset (List.mem_append_right _ (List.mem_singleton_self c))
  rw [isHostChar_of_isNameChar (hname c (List.mem_append_left _ hmem))] at hc
  cases hc

/-- **With a name in the place of its host, a pattern is cut at the name**, if it is cut at
all. -/
theorem host_eq_of_isHostCut
    {pattern name : List Char}
    {split split' : HostSplit}
    (h : IsHostCut pattern split)
    (hname : ∀ c ∈ name, Domain.isNameChar c)
    (hdot : '.' ∈ name)
    (h' : IsHostCut (split.lead ++ (name ++ split.rest)) split') :
    split'.host = name := by
  have hinitial' : split'.lead <+: split.lead ++ (name ++ split.rest) :=
    ⟨_, h'.pattern_eq.symm⟩
  have hlead : split.lead = split'.lead := by
    rcases h.lead_mem with hnil | hmem
    · rw [hnil, List.nil_append] at hinitial'
      rcases h'.lead_mem with hnil' | hmem'
      · rw [hnil, hnil']
      · exact absurd hinitial' (not_isPrefix_name hmem' hname hdot _)
    · have hinitial : split.lead <+: split'.lead :=
        List.prefix_of_prefix_length_le (List.prefix_append _ _) hinitial'
          (h'.lead_longest _ hmem (List.prefix_append _ _))
      rcases h'.lead_mem with hnil' | hmem'
      · rw [hnil'] at hinitial ⊢
        exact List.prefix_nil.mp hinitial
      · exact eq_of_isPrefix_of_mem_leads hmem hmem' hinitial
  have hbody : name ++ split.rest = split'.host ++ split'.rest := by
    have hpattern := h'.pattern_eq
    rw [← hlead] at hpattern
    exact List.append_cancel_left hpattern
  have hends : ∀ c ∈ name, endsHost c = false := fun c hc =>
    endsHost_of_isHostChar (isHostChar_of_isNameChar (hname c hc))
  have hends' : ∀ c ∈ split'.host, endsHost c = false := fun c hc =>
    endsHost_of_isHostChar (h'.host_char c hc)
  rw [← (span_host hends h.rest_start).1, hbody, (span_host hends' h'.rest_start).1]

/-! ## Hosts that are to be encoded -/

/-- The pattern is cut at a host that has a character beyond ASCII. -/
def HasForeignHost (pattern : String) (split : HostSplit) : Prop :=
  splitHost? pattern.toList = some split ∧ ¬ split.host.all Text.isAscii

theorem HasForeignHost.eq
    {pattern : String}
    {split split' : HostSplit}
    (h : HasForeignHost pattern split)
    (h' : HasForeignHost pattern split') :
    split = split' :=
  Option.some.inj (h.1.symm.trans h'.1)

variable {encode : String → Option String} {pattern : String} {split : HostSplit}

/-- **The encoded form takes the place of the host and of nothing else**, if it is the name
of a host. -/
theorem encodeHostWith_of_foreign
    (h : HasForeignHost pattern split) :
    encodeHostWith encode pattern =
      (encode (String.ofList split.host)).map fun encoded =>
        if Domain.looksLikeHost encoded then
          String.ofList (split.lead ++ (encoded.toList ++ split.rest))
        else pattern := by
  obtain ⟨hsplit, hforeign⟩ := h
  unfold encodeHostWith
  simp only [hsplit, if_neg hforeign,
    replaceFirst_host (splitHost?_eq_some_iff.mp hsplit) hforeign]
  cases encode (String.ofList split.host) with
  | none => rfl
  | some encoded => exact (apply_ite some _ _ _).symm

theorem encodeHostWith_of_not_foreign
    (h : ∀ split, ¬ HasForeignHost pattern split) :
    encodeHostWith encode pattern = some pattern := by
  unfold encodeHostWith
  split
  · rfl
  next split hsplit => rw [if_pos (Decidable.not_not.mp fun hascii => h split ⟨hsplit, hascii⟩)]

/-- No host is left to be encoded when the name of one has taken its place. -/
theorem not_hasForeignHost_of_looksLikeHost
    {encoded : String}
    (h : HasForeignHost pattern split)
    (hlooks : Domain.looksLikeHost encoded)
    (split' : HostSplit) :
    ¬ HasForeignHost (String.ofList (split.lead ++ (encoded.toList ++ split.rest))) split' := by
  rintro ⟨hsplit', hforeign⟩
  rw [String.toList_ofList, splitHost?_eq_some_iff] at hsplit'
  obtain ⟨hname, hdot⟩ := Domain.isNameChar_of_looksLikeHost hlooks
  rw [host_eq_of_isHostCut (splitHost?_eq_some_iff.mp h.1) hname hdot hsplit'] at hforeign
  exact hforeign (List.all_eq_true.mpr fun c hc => Domain.isAscii_of_isNameChar (hname c hc))

/-- A pattern is refused if it has a host that cannot be encoded. -/
theorem encodeHostWith_eq_none_iff :
    encodeHostWith encode pattern = none ↔
      ∃ split, HasForeignHost pattern split ∧ encode (String.ofList split.host) = none := by
  constructor
  · intro hnone
    by_cases hforeign : ∃ split, HasForeignHost pattern split
    · obtain ⟨split, h⟩ := hforeign
      rw [encodeHostWith_of_foreign h, Option.map_eq_none_iff] at hnone
      exact ⟨split, h, hnone⟩
    · rw [encodeHostWith_of_not_foreign (not_exists.mp hforeign)] at hnone
      cases hnone
  · rintro ⟨split, h, hnone⟩
    rw [encodeHostWith_of_foreign h, hnone]
    rfl

/-- The host is rewritten, or the pattern is left as it is. -/
theorem encodeHostWith_eq_some_iff
    {result : String} :
    encodeHostWith encode pattern = some result ↔
      (∃ split encoded, HasForeignHost pattern split ∧
          encode (String.ofList split.host) = some encoded ∧
          Domain.looksLikeHost encoded ∧
          result = String.ofList (split.lead ++ (encoded.toList ++ split.rest))) ∨
        (result = pattern ∧
          ∀ split, HasForeignHost pattern split →
            ∃ encoded, encode (String.ofList split.host) = some encoded ∧
              ¬ Domain.looksLikeHost encoded) := by
  by_cases hforeign : ∃ split, HasForeignHost pattern split
  · obtain ⟨split, h⟩ := hforeign
    have hall : ∀ {p : HostSplit → Prop}, (∀ other, HasForeignHost pattern other → p other) ↔
        p split :=
      ⟨fun hp => hp split h, fun hp other hother => h.eq hother ▸ hp⟩
    have hexists : ∀ {p : HostSplit → Prop}, (∃ other, HasForeignHost pattern other ∧ p other) ↔
        p split :=
      ⟨fun ⟨other, hother, hp⟩ => h.eq hother ▸ hp, fun hp => ⟨split, h, hp⟩⟩
    simp only [exists_and_left, hall, hexists]
    rw [encodeHostWith_of_foreign h]
    cases encode (String.ofList split.host) with
    | none => simp
    | some encoded =>
        rw [Option.map_some, Option.some_inj, eq_comm]
        by_cases hlooks : Domain.looksLikeHost encoded <;> simp [hlooks]
  · rw [encodeHostWith_of_not_foreign (not_exists.mp hforeign), Option.some_inj]
    constructor
    · rintro rfl
      exact .inr ⟨rfl, fun split h => absurd ⟨split, h⟩ hforeign⟩
    · rintro (⟨split, -, h, -⟩ | ⟨rfl, -⟩)
      · exact absurd ⟨split, h⟩ hforeign
      · rfl

/-- **Encoding a host twice is encoding it once.** -/
theorem encodeHostWith_idempotent
    {result : String}
    (h : encodeHostWith encode pattern = some result) :
    encodeHostWith encode result = some result := by
  rcases encodeHostWith_eq_some_iff.mp h with ⟨split, encoded, hforeign, -, hlooks, rfl⟩ | ⟨rfl, -⟩
  · exact encodeHostWith_of_not_foreign (not_hasForeignHost_of_looksLikeHost hforeign hlooks)
  · exact h

/-- **The encoding of a host rewrites the host and nothing else.**  There is no answer if and
only if the pattern has a host with a character beyond ASCII that cannot be encoded.  The
answer is the pattern with the encoded form between what stands in front of the host and
what stands behind it, if that form is the name of a host, and else the pattern.  Encoding
the answer leaves it as it is.  All of this holds whatever the encoding is. -/
theorem encodeHostWith_rewrites
    (encode : String → Option String)
    (pattern : String) :
    (encodeHostWith encode pattern = none ↔
        ∃ split, HasForeignHost pattern split ∧ encode (String.ofList split.host) = none) ∧
      (∀ result, encodeHostWith encode pattern = some result ↔
        (∃ split encoded, HasForeignHost pattern split ∧
            encode (String.ofList split.host) = some encoded ∧
            Domain.looksLikeHost encoded ∧
            result = String.ofList (split.lead ++ (encoded.toList ++ split.rest))) ∨
          (result = pattern ∧
            ∀ split, HasForeignHost pattern split →
              ∃ encoded, encode (String.ofList split.host) = some encoded ∧
                ¬ Domain.looksLikeHost encoded)) ∧
      (∀ split, HasForeignHost pattern split →
        pattern = String.ofList (split.lead ++ (split.host ++ split.rest))) ∧
      ∀ result, encodeHostWith encode pattern = some result →
        encodeHostWith encode result = some result := by
  refine ⟨encodeHostWith_eq_none_iff, fun _ => encodeHostWith_eq_some_iff, ?_, fun _ h =>
    encodeHostWith_idempotent h⟩
  intro split h
  rw [← (splitHost?_eq_some_iff.mp h.1).pattern_eq, String.ofList_toList]

/-- The host of this pattern stands in its path too. -/
theorem encodeHostWith_rewrites_path :
    let encode (host : String) : Option String :=
      if host = "пример.рф" then some "xn--e1afmkfd.xn--p1ai" else none
    let pattern := "@@|https://пример.рф/пример.рф"
    let encoded := "@@|https://xn--e1afmkfd.xn--p1ai/пример.рф"
    let split : HostSplit :=
      { lead := "@@|https://".toList, host := "пример.рф".toList, rest := "/пример.рф".toList }
    HasForeignHost pattern split ∧
      pattern = String.ofList (split.lead ++ (split.host ++ split.rest)) ∧
      encodeHostWith encode pattern = some encoded ∧
      encodeHostWith encode encoded = some encoded := by
  intro encode pattern encoded split
  have hforeign : HasForeignHost pattern split := by unfold HasForeignHost; decide +kernel
  have hencoded : encodeHostWith encode pattern = some encoded := by decide +kernel
  obtain ⟨-, -, hpattern, hagain⟩ := encodeHostWith_rewrites encode pattern
  exact ⟨hforeign, hpattern split hforeign, hencoded, hagain encoded hencoded⟩

end Pattern
end FilterCompiler
