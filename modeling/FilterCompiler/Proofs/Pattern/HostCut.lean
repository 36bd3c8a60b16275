import FilterCompiler.Pattern.Host
import FilterCompiler.Proofs.Text

/-!
# Where a pattern is cut at its host

What stands before the host is the longest lead with which the pattern begins, and the
host goes on up to the first sign that ends one.  Both are determined by the pattern, so a
cut can be told from its parts alone (`splitHost?_eq_some_iff`): they make up the pattern,
and the host has the characters and the length of one.  A dot at its end is refused only
if nothing follows the host (`splitHost?_wellFormed`).
-/

namespace FilterCompiler
namespace Pattern

/-! ## Leads -/

theorem longestLead_isPrefix
    (pattern : List Char)
    (leads : List (List Char)) :
    longestLead pattern leads <+: pattern := by
  induction leads with
  | nil => exact List.nil_prefix
  | cons lead leads ih =>
      rw [longestLead]
      split
      · next h => exact Text.beginsWith_iff.mp (Bool.and_eq_true_iff.mp h).1
      · exact ih

theorem longestLead_mem
    (pattern : List Char)
    (leads : List (List Char)) :
    longestLead pattern leads = [] ∨ longestLead pattern leads ∈ leads := by
  induction leads with
  | nil => exact .inl rfl
  | cons lead leads ih =>
      rw [longestLead]
      split
      · exact .inr List.mem_cons_self
      · exact ih.imp_right (List.mem_cons_of_mem lead)

/-- No lead with which the pattern begins is longer. -/
theorem length_le_longestLead
    {pattern lead : List Char}
    {leads : List (List Char)}
    (hmem : lead ∈ leads)
    (hlead : lead <+: pattern) :
    lead.length ≤ (longestLead pattern leads).length := by
  induction leads with
  | nil => cases hmem
  | cons first leads ih =>
      rw [longestLead]
      rcases List.mem_cons.mp hmem with rfl | hmem
      · have hbegins : Text.beginsWith lead pattern := Text.beginsWith_iff.mpr hlead
        split
        · exact Nat.le_refl _
        · next h => simpa [hbegins] using h
      · split
        · next h =>
            have hlonger := of_decide_eq_true (Bool.and_eq_true_iff.mp h).2
            exact Nat.le_trans (ih hmem) (Nat.le_of_lt hlonger)
        · exact ih hmem

/-- What may stand before a host, as characters. -/
def leads : List (List Char) := hostLeads.map String.toList

/-- A text is the longest lead of a pattern if it is a lead of the pattern, or nothing, and
no other is longer. -/
theorem longestLead_eq
    {pattern lead : List Char}
    (hinitial : lead <+: pattern)
    (hmem : lead = [] ∨ lead ∈ leads)
    (hlongest : ∀ other ∈ leads, other <+: pattern → other.length ≤ lead.length) :
    longestLead pattern leads = lead := by
  have hle : (longestLead pattern leads).length ≤ lead.length := by
    rcases longestLead_mem pattern leads with hnil | hlead
    · rw [hnil]
      exact Nat.zero_le _
    · exact hlongest _ hlead (longestLead_isPrefix pattern leads)
  have hge : lead.length ≤ (longestLead pattern leads).length := by
    rcases hmem with rfl | hlead
    · exact Nat.zero_le _
    · exact length_le_longestLead hlead hinitial
  exact (List.prefix_of_prefix_length_le (longestLead_isPrefix pattern leads) hinitial hle)
    |>.eq_of_length (Nat.le_antisymm hle hge)

/-! ## Hosts -/

/-- No sign that ends a host may stand in one. -/
theorem endsHost_of_isHostChar
    {c : Char}
    (h : isHostChar c) :
    endsHost c = false := by
  rw [← Bool.not_eq_true]
  intro hends
  simp only [endsHost, Bool.or_eq_true, beq_iff_eq] at hends
  rcases hends with (rfl | rfl) | rfl <;> exact absurd h (by decide)

/-- The end of the host is where a sign first ends it. -/
theorem span_host
    {host rest : List Char}
    (hhost : ∀ c ∈ host, endsHost c = false)
    (hrest : ∀ c ∈ rest.head?, endsHost c) :
    (host ++ rest).takeWhile (!endsHost ·) = host ∧
      (host ++ rest).dropWhile (!endsHost ·) = rest := by
  have hall : ∀ c ∈ host, (!endsHost c) = true := fun c hc => by rw [hhost c hc]; rfl
  rw [List.takeWhile_append_of_pos hall, List.dropWhile_append_of_pos hall]
  cases rest with
  | nil => simp
  | cons c rest => simp [hrest c rfl]

/-! ## Cuts -/

/-- What comes of a pattern whose parts are known. -/
theorem splitHost?_of_parts
    {pattern lead host rest : List Char}
    (hlead : longestLead pattern leads = lead)
    (hpattern : pattern = lead ++ (host ++ rest))
    (hhost : ∀ c ∈ host, endsHost c = false)
    (hrest : ∀ c ∈ rest.head?, endsHost c) :
    splitHost? pattern =
      if host.head?.any isHostStart && host.all isHostChar
          && !(rest.isEmpty && Text.endsWithChar '.' host)
          && shortestHost ≤ Text.byteLength host then
        some { lead, host, rest }
      else none := by
  have hlead' : longestLead pattern (hostLeads.map String.toList) = lead := hlead
  have hbody : pattern.drop lead.length = host ++ rest := by rw [hpattern, List.drop_left]
  obtain ⟨htake, hdrop⟩ := span_host hhost hrest
  simp only [splitHost?, hlead', hbody, htake, hdrop]

/-- The parts make up the pattern, the lead is the longest one, and the host is well
formed. -/
structure IsHostCut (pattern : List Char) (split : HostSplit) : Prop where
  pattern_eq : pattern = split.lead ++ (split.host ++ split.rest)
  lead_mem : split.lead = [] ∨ split.lead ∈ leads
  lead_longest : ∀ lead ∈ leads, lead <+: pattern → lead.length ≤ split.lead.length
  /-- The host has five bytes. -/
  host_length : 5 ≤ Text.byteLength split.host
  host_start : ∀ c ∈ split.host.head?, isHostStart c
  host_char : ∀ c ∈ split.host, isHostChar c
  /-- A host at the end of the pattern does not end with a dot. -/
  host_end : split.host.getLast? = some '.' → split.rest ≠ []
  rest_start : ∀ c ∈ split.rest.head?, endsHost c

theorem IsHostCut.host_ne_nil
    {pattern : List Char}
    {split : HostSplit}
    (h : IsHostCut pattern split) :
    split.host ≠ [] := by
  intro hnil
  have hlength := h.host_length
  rw [hnil] at hlength
  exact absurd hlength (by decide)

/-- **A cut is told from its parts.** -/
theorem splitHost?_eq_some_iff
    {pattern : List Char}
    {split : HostSplit} :
    splitHost? pattern = some split ↔ IsHostCut pattern split := by
  constructor
  · intro h
    have hinitial := longestLead_isPrefix pattern leads
    simp only [splitHost?, Option.ite_none_right_eq_some, Option.some.injEq, Bool.and_eq_true,
      Bool.not_eq_true', decide_eq_true_eq, List.all_eq_true] at h
    obtain ⟨⟨⟨⟨hstart, hchar⟩, hend⟩, hlength⟩, rfl⟩ := h
    exact {
      pattern_eq := by
        rw [List.takeWhile_append_dropWhile]
        exact (List.prefix_iff_eq_append.mp hinitial).symm
      lead_mem := longestLead_mem pattern leads
      lead_longest := fun lead hmem hlead => length_le_longestLead hmem hlead
      host_length := hlength
      host_start := fun c hc => by simpa [Option.mem_def.mp hc] using hstart
      host_char := hchar
      host_end := fun hdot hnil => by
        dsimp only at hdot hnil
        rw [hnil, Text.endsWithChar, hdot] at hend
        cases hend
      rest_start := fun c hc => by
        have hstops := List.head?_dropWhile_not (!endsHost ·)
          (pattern.drop (longestLead pattern (hostLeads.map String.toList)).length)
        rw [Option.mem_def.mp hc] at hstops
        simpa using hstops }
  · intro h
    have hlead : longestLead pattern leads = split.lead :=
      longestLead_eq ⟨_, h.pattern_eq.symm⟩ h.lead_mem h.lead_longest
    have hstart : split.host.head?.any isHostStart = true := by
      cases hhead : split.host.head? with
      | none => exact absurd (List.head?_eq_none_iff.mp hhead) h.host_ne_nil
      | some c => exact h.host_start c hhead
    have hend : (split.rest.isEmpty && Text.endsWithChar '.' split.host) = false := by
      rw [← Bool.not_eq_true, Bool.and_eq_true, List.isEmpty_iff, Text.endsWithChar, beq_iff_eq]
      exact fun ⟨hnil, hdot⟩ => h.host_end hdot hnil
    have hlength : shortestHost ≤ Text.byteLength split.host := h.host_length
    rw [splitHost?_of_parts hlead h.pattern_eq
      (fun c hc => endsHost_of_isHostChar (h.host_char c hc)) h.rest_start]
    simp only [hstart, hend, hlength, List.all_eq_true.mpr h.host_char, Bool.not_false,
      Bool.and_self, decide_true, if_true]

/-- **The parts of a cut are the pattern**, and the host is one of them. -/
theorem eq_append_of_splitHost?
    {pattern : List Char}
    {split : HostSplit}
    (h : splitHost? pattern = some split) :
    pattern = split.lead ++ (split.host ++ split.rest) ∧ split.host ≠ [] :=
  have hcut := splitHost?_eq_some_iff.mp h
  ⟨hcut.pattern_eq, hcut.host_ne_nil⟩

/-- **What the host of a pattern looks like.**  A pattern is cut in three if and only if the
parts make it up, the first is the longest lead of the pattern or nothing, the second has
five bytes, begins with a letter, a digit or a character beyond ASCII and holds hyphens and
dots besides, and the third is nothing or begins with a sign that ends a host.  The second
may end with a dot if something follows it.  A path is what has two bytes behind the host. -/
theorem splitHost?_wellFormed
    (pattern : List Char)
    (split : HostSplit) :
    (splitHost? pattern = some split ↔ IsHostCut pattern split) ∧
      (split.hasPath ↔ 2 ≤ Text.byteLength split.rest) :=
  ⟨splitHost?_eq_some_iff, decide_eq_true_iff⟩

/-- A dot at the end of a host is not refused if a sign follows it. -/
theorem splitHost?_trailingDot :
    ¬ ∀ pattern split, splitHost? pattern = some split → split.host.getLast? ≠ some '.' := by
  intro h
  have hsplit : splitHost? "||example.^".toList =
      some { lead := "||".toList, host := "example.".toList, rest := "^".toList } := by
    decide
  exact h _ _ hsplit (by decide)

end Pattern
end FilterCompiler
