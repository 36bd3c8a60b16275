import FilterCompiler.Proofs.Pattern.HostAnchor
import FilterCompiler.Proofs.Pattern.HostCut
import FilterCompiler.Proofs.Text.Slice

/-!
# Hosts found byte by byte

The host of a pattern is a slice between the lead of the pattern and the first byte that
ends a host.  No sign that is looked for is a part of another character, so both are
places at which the pattern can be cut (`patternHost_eq`).  Whether an encoded host is a
host name is read off its bytes before and behind the last dot (`looksLikeHost_eq`).
-/

namespace FilterCompiler
namespace Checked

open Text (codes sub? slice? byteSlice?)

/-! ## The walk over a host -/

/-- Walks over the bytes of a host from byte `pos` on, which begins at byte `start`; `last` is
the byte in front.  The result is where the host ends and the last byte that has been looked
at, or nothing if it is no host. -/
def hostEnd? (start pos : Nat) (last : Option Char) : List Char → Option (Nat × Option Char)
  | [] => some (pos, last)
  | b :: bytes =>
      if Pattern.endsHost b then some (pos, some b)
      else if pos = start ∧ ¬ Pattern.isHostStart b then none
      else if ¬ Pattern.isHostChar b then none
      else hostEnd? start (pos + 1) (some b) bytes

/-- The host of a pattern and whether a path follows it, if there is one. -/
def patternHost (pattern : List Char) : Option (Option (List Char × Bool)) :=
  let bytes := codes pattern
  let start := Text.byteLength (Pattern.longestLead pattern Pattern.leads)
  match hostEnd? start start none (bytes.drop start) with
  | none => return none
  | some (stop, last) => do
      if stop ≤ start ∨ last = some '.' then return none
      let host ← slice? start stop pattern
      if Text.byteLength host < Pattern.shortestHost then return none
      let rest ← sub? bytes.length stop
      return some (host, decide (1 < rest))

section Walk

variable {start pos : Nat} {last : Option Char}

/-- The bytes of characters of a host are passed. -/
theorem hostEnd?_append
    {bytes : List Char}
    (hbytes : ∀ b ∈ bytes, Pattern.isHostChar b)
    (hstart : pos = start → bytes.head?.all Pattern.isHostStart)
    (hpos : start ≤ pos)
    (more : List Char) :
    hostEnd? start pos last (bytes ++ more) =
      hostEnd? start (pos + bytes.length) (bytes.getLast?.or last) more := by
  induction bytes generalizing pos last with
  | nil => rfl
  | cons b bytes ih =>
      rw [List.forall_mem_cons] at hbytes
      have hfirst : ¬ (pos = start ∧ ¬ Pattern.isHostStart b) := fun h => h.2 (hstart h.1)
      rw [List.cons_append, hostEnd?, Pattern.endsHost_of_isHostChar hbytes.1,
        if_neg Bool.false_ne_true, if_neg hfirst, if_neg (not_not.mpr hbytes.1),
        ih hbytes.2 (fun h => by omega) (by omega), List.length_cons, Nat.add_right_comm,
        Nat.add_assoc, List.getLast?_cons]
      cases bytes.getLast? <;> rfl

/-- The walk ends at a byte that ends a host. -/
theorem hostEnd?_of_head?
    {bytes : List Char}
    (h : ∀ b ∈ bytes.head?, Pattern.endsHost b) :
    hostEnd? start pos last bytes = some (pos, bytes.head?.or last) := by
  cases bytes with
  | nil => rfl
  | cons b bytes => rw [hostEnd?, if_pos (h b rfl), List.head?_cons, Option.some_or]

end Walk

theorem isAscii_of_not_isHostStart
    {c : Char}
    (h : ¬ Pattern.isHostStart c) :
    Text.isAscii c := by
  rw [Pattern.isHostStart, Bool.or_eq_true, not_or, Bool.not_eq_true', Bool.not_eq_false] at h
  exact h.2

theorem isHostChar_of_isHostStart
    {c : Char}
    (h : Pattern.isHostStart c) :
    Pattern.isHostChar c := by
  rw [Pattern.isHostChar, h]
  rfl

theorem ignoresForeign_isHostStart : Text.IgnoresForeign Pattern.isHostStart := by
  intro c d hc hd
  simp [Pattern.isHostStart, hc, hd]

theorem ignoresForeign_isHostChar : Text.IgnoresForeign Pattern.isHostChar := by
  intro c d hc hd
  simp [Pattern.isHostChar, Pattern.isHostStart, hc, hd]

theorem all_head?_codes
    (s : List Char) :
    (codes s).head?.all Pattern.isHostStart = s.head?.all Pattern.isHostStart := by
  cases s with
  | nil => rfl
  | cons c s =>
      obtain ⟨b, hhead, hb⟩ := Text.exists_head?_codes ignoresForeign_isHostStart c s
      rw [hhead, List.head?_cons, Option.all_some, Option.all_some, hb]

theorem isAscii_of_endsHost
    {c : Char}
    (h : Pattern.endsHost c) :
    Text.isAscii c := by
  simp only [Pattern.endsHost, Bool.or_eq_true, beq_iff_eq] at h
  rcases h with (rfl | rfl) | rfl <;> rfl

/-- No walk passes a character that may not stand in a host. -/
theorem hostEnd?_of_not_isHostChar
    {start pos : Nat}
    {last : Option Char}
    {c : Char}
    (hends : Pattern.endsHost c = false)
    (hc : ¬ Pattern.isHostChar c)
    (s : List Char) :
    hostEnd? start pos last (codes (c :: s)) = none := by
  have hstart : ¬ Pattern.isHostStart c := mt isHostChar_of_isHostStart hc
  rw [Text.codes_cons_of_isAscii (isAscii_of_not_isHostStart hstart), hostEnd?, hends,
    if_neg Bool.false_ne_true, if_pos hc, ite_self]

theorem hostEnd?_codes_of_isHostChar
    {host rest : List Char}
    (hstart : host.head?.all Pattern.isHostStart)
    (hchars : host.all Pattern.isHostChar)
    (hrest : ∀ c ∈ rest.head?, Pattern.endsHost c)
    (start : Nat) :
    hostEnd? start start none (codes (host ++ rest)) =
      some (start + Text.byteLength host, (codes rest).head?.or (codes host).getLast?) := by
  have hend : ∀ b ∈ (codes rest).head?, Pattern.endsHost b := by
    cases rest with
    | nil => simp
    | cons c rest =>
        have hc := hrest c rfl
        rw [Text.codes_cons_of_isAscii (isAscii_of_endsHost hc)]
        rintro b ⟨⟩
        exact hc
  rw [← Text.all_codes ignoresForeign_isHostChar, List.all_eq_true] at hchars
  rw [← all_head?_codes] at hstart
  rw [Text.codes_append, hostEnd?_append hchars (fun _ => hstart) (Nat.le_refl _),
    hostEnd?_of_head? hend, Text.length_codes, Option.or_none]

/-- The walk stops at the first character that may not stand in a host. -/
theorem hostEnd?_codes_of_not_isHostChar
    {host : List Char}
    (hhost : ∀ c ∈ host, Pattern.endsHost c = false)
    (hstart : host.head?.all Pattern.isHostStart)
    (hchars : ¬ host.all Pattern.isHostChar)
    (rest : List Char)
    (start : Nat) :
    hostEnd? start start none (codes (host ++ rest)) = none := by
  have hparts := List.takeWhile_append_dropWhile (p := Pattern.isHostChar) (l := host)
  have hbad : host.dropWhile Pattern.isHostChar ≠ [] := by
    intro hnil
    rw [hnil, List.append_nil] at hparts
    exact hchars (hparts ▸ List.all_takeWhile)
  obtain ⟨c, bad, hcut⟩ := List.exists_cons_of_ne_nil hbad
  have hc := List.head?_dropWhile_not Pattern.isHostChar host
  have hgood : ∀ b ∈ codes (host.takeWhile Pattern.isHostChar), Pattern.isHostChar b := by
    rw [← List.all_eq_true, Text.all_codes ignoresForeign_isHostChar]
    exact List.all_takeWhile
  have hfirst : (codes (host.takeWhile Pattern.isHostChar)).head?.all Pattern.isHostStart := by
    rw [all_head?_codes]
    cases host with
    | nil => rfl
    | cons d host =>
        rw [List.takeWhile_cons_of_pos (isHostChar_of_isHostStart hstart)]
        exact hstart
  rw [hcut, List.head?_cons] at hc
  rw [hcut] at hparts
  have hends : Pattern.endsHost c = false :=
    hhost c (hparts ▸ List.mem_append_right _ List.mem_cons_self)
  rw [← hparts, List.append_assoc, Text.codes_append,
    hostEnd?_append hgood (fun _ => hfirst) (Nat.le_refl _), List.cons_append,
    hostEnd?_of_not_isHostChar hends (by simpa using hc)]

/-- **The walk over a host** passes it if all of its characters may stand in one. -/
theorem hostEnd?_codes
    {host rest : List Char}
    (hhost : ∀ c ∈ host, Pattern.endsHost c = false)
    (hrest : ∀ c ∈ rest.head?, Pattern.endsHost c)
    (start : Nat) :
    hostEnd? start start none (codes (host ++ rest)) =
      if host.head?.all Pattern.isHostStart ∧ host.all Pattern.isHostChar then
        some (start + Text.byteLength host, (codes rest).head?.or (codes host).getLast?)
      else none := by
  by_cases hstart : host.head?.all Pattern.isHostStart
  · by_cases hchars : host.all Pattern.isHostChar
    · rw [if_pos ⟨hstart, hchars⟩, hostEnd?_codes_of_isHostChar hstart hchars hrest]
    · rw [if_neg fun h => hchars h.2, hostEnd?_codes_of_not_isHostChar hhost hstart hchars]
  · rw [if_neg fun h => hstart h.1]
    cases host with
    | nil => exact absurd rfl hstart
    | cons c host =>
        rw [List.cons_append, Text.codes_cons_of_isAscii (isAscii_of_not_isHostStart hstart),
          hostEnd?, hhost c List.mem_cons_self, if_neg Bool.false_ne_true, if_pos ⟨rfl, hstart⟩]

/-- What follows the longest lead of a pattern, cut at the first sign that ends a host. -/
theorem exists_parts
    (pattern : List Char) :
    ∃ host rest, pattern = Pattern.longestLead pattern Pattern.leads ++ (host ++ rest) ∧
      (∀ c ∈ host, Pattern.endsHost c = false) ∧ ∀ c ∈ rest.head?, Pattern.endsHost c := by
  obtain ⟨body, hbody⟩ := Pattern.longestLead_isPrefix pattern Pattern.leads
  refine ⟨body.takeWhile (!Pattern.endsHost ·), body.dropWhile (!Pattern.endsHost ·), ?_, ?_, ?_⟩
  · rw [List.takeWhile_append_dropWhile, hbody]
  · intro c hc
    simpa using List.all_eq_true.mp List.all_takeWhile c hc
  · intro c hc
    have hstops := List.head?_dropWhile_not (!Pattern.endsHost ·) body
    rw [Option.mem_def.mp hc] at hstops
    simpa using hstops

/-- The last byte that the walk looks at is a dot if the host ends the pattern with one. -/
theorem last_eq_dot_iff
    {host rest : List Char}
    (hrest : ∀ c ∈ rest.head?, Pattern.endsHost c) :
    (codes rest).head?.or (codes host).getLast? = some '.' ↔
      rest = [] ∧ host.getLast? = some '.' := by
  cases rest with
  | nil => simp [Text.getLast?_codes_eq_some_iff (c := '.') rfl]
  | cons c rest =>
      have hc := hrest c rfl
      have hdot : c ≠ '.' := by
        rintro rfl
        cases hc
      rw [Text.codes_cons_of_isAscii (isAscii_of_endsHost hc)]
      simp [hdot]

/-- **The host of a pattern is in the pattern.** -/
theorem patternHost_eq
    (pattern : List Char) :
    patternHost pattern =
      some ((Pattern.splitHost? pattern).map fun split => (split.host, split.hasPath)) := by
  obtain ⟨host, rest, hpattern, hhost, hrest⟩ := exists_parts pattern
  obtain ⟨lead, hlead⟩ : ∃ lead, Pattern.longestLead pattern Pattern.leads = lead := ⟨_, rfl⟩
  rw [hlead] at hpattern
  rw [Pattern.splitHost?_of_parts hlead hpattern hhost hrest, patternHost, hlead, hpattern,
    Text.drop_codes_append, hostEnd?_codes hhost hrest]
  cases host with
  | nil =>
      rw [if_pos ⟨rfl, rfl⟩]
      dsimp only
      rw [if_pos (.inl (Nat.le_refl _))]
      rfl
  | cons c host =>
      have hany : (c :: host).head?.any Pattern.isHostStart = Pattern.isHostStart c := rfl
      have hall : (c :: host).head?.all Pattern.isHostStart = Pattern.isHostStart c := rfl
      rw [hany, hall]
      by_cases hchars : Pattern.isHostStart c ∧ (c :: host).all Pattern.isHostChar
      · have hlong : ¬ Text.byteLength lead + Text.byteLength (c :: host) ≤ Text.byteLength lead := by
          have hpos := c.utf8Size_pos
          rw [Text.byteLength]
          omega
        have hslice : slice? (Text.byteLength lead) (Text.byteLength lead + Text.byteLength (c :: host))
            (lead ++ (c :: host ++ rest)) = some (c :: host) :=
          Text.slice?_eq_some_iff.mpr ⟨lead, rest, rfl, rfl, Text.byteLength_append _ _⟩
        have hend : (rest.isEmpty && Text.endsWithChar '.' (c :: host)) = true ↔
            (codes rest).head?.or (codes (c :: host)).getLast? = some '.' := by
          rw [last_eq_dot_iff hrest, Bool.and_eq_true, List.isEmpty_iff, Text.endsWithChar, beq_iff_eq]
        rw [if_pos hchars, hchars.1, hchars.2]
        dsimp only
        by_cases hdot : (codes rest).head?.or (codes (c :: host)).getLast? = some '.'
        · rw [if_pos (.inr hdot), hend.mpr hdot]
          rfl
        rw [if_neg (not_or.mpr ⟨hlong, hdot⟩), Bool.eq_false_iff.mpr (mt hend.mp hdot), hslice,
          Option.bind_eq_bind, Option.bind_some]
        by_cases hshort : Text.byteLength (c :: host) < Pattern.shortestHost
        · rw [if_pos hshort, if_neg (by simpa using hshort)]
          rfl
        · rw [if_neg hshort, if_pos (by simpa using hshort), Text.length_codes, Text.byteLength_append,
            Text.byteLength_append, Text.sub?_of_le (by omega), ← Nat.add_assoc,
            Nat.add_sub_cancel_left]
          rfl
      · have hrefused : (Pattern.isHostStart c && (c :: host).all Pattern.isHostChar) = false := by
          rwa [Bool.eq_false_iff, Ne, Bool.and_eq_true]
        rw [if_neg hchars, hrefused]
        rfl

/-! ## Host names -/

/-- These bytes before and behind the last dot are those of a host name that can be
registered. -/
def isHostName (host tld : List Char) : Option Bool := do
  if host.length < 2 ∨ tld.length < 2 then return false
  let first ← host[0]?
  let last ← host[← sub? host.length 1]?
  if ¬ Domain.isAlphanumeric first ∨ ¬ Domain.isAlphanumeric last then return false
  if ¬ host.all Domain.isNameChar then return false
  let lead ← tld[0]?
  return Domain.isLetter lead && tld.all fun c => Domain.isAlphanumeric c || c == '-'

/-- The text has the shape of a host name that can be registered. -/
def looksLikeHost (domain : String) : Option Bool :=
  let bytes := codes domain.toList
  match Text.lastByte? '.' domain.toList with
  | none => return false
  | some dot => do
      let host ← byteSlice? 0 dot bytes
      let tld ← byteSlice? (dot + 1) bytes.length bytes
      isHostName host tld

/-- The pattern with its host in ASCII. -/
def encodeHost (pattern : String) : Option (Option String) := do
  match ← patternHost pattern.toList with
  | none => return some pattern
  | some (host, _) =>
      if host.all Text.isAscii then return some pattern
      match DomainEncoder.toAscii (String.ofList host) with
      | none => return none
      | some encoded =>
          if ← looksLikeHost encoded then
            return some (String.ofList (Text.replaceFirst host encoded.toList pattern.toList))
          else return some pattern

theorem isHostName_eq
    (host tld : List Char) :
    isHostName host tld =
      some (2 ≤ host.length && 2 ≤ tld.length
        && host.head?.any Domain.isAlphanumeric && host.getLast?.any Domain.isAlphanumeric
        && host.all Domain.isNameChar
        && tld.head?.any Domain.isLetter
        && tld.all fun c => Domain.isAlphanumeric c || c == '-') := by
  rw [isHostName]
  by_cases hshort : host.length < 2 ∨ tld.length < 2
  · rw [if_pos hshort]
    rcases hshort with hshort | hshort
    · simp [Nat.not_le.mpr hshort]
    · simp [Nat.not_le.mpr hshort]
  · obtain ⟨hhost, htld⟩ := not_or.mp hshort
    have hfirst := List.getElem?_eq_getElem (l := host) (i := 0) (by omega)
    have hlast := List.getElem?_eq_getElem (l := host) (i := host.length - 1) (by omega)
    have hlead := List.getElem?_eq_getElem (l := tld) (i := 0) (by omega)
    rw [if_neg hshort, decide_eq_true (Nat.not_lt.mp hhost), decide_eq_true (Nat.not_lt.mp htld),
      List.head?_eq_getElem?, List.head?_eq_getElem?, List.getLast?_eq_getElem?,
      Text.sub?_of_le (by omega)]
    simp only [Option.bind_eq_bind, Option.bind_some, hfirst, hlast, hlead, Option.any_some]
    cases Domain.isAlphanumeric host[0] <;> cases Domain.isAlphanumeric host[host.length - 1] <;>
      cases host.all Domain.isNameChar <;> rfl

/-- **The bytes around the last dot are told from the text around it.** -/
theorem looksLikeHost_eq
    (domain : String) :
    looksLikeHost domain = some (Domain.looksLikeHost domain) := by
  rw [looksLikeHost, Domain.looksLikeHost, Text.lastByte?]
  cases hbreak : Text.breakAtLast? '.' domain.toList with
  | none => rfl
  | some p =>
      obtain ⟨host, tld⟩ := p
      have hdomain : domain.toList = host ++ ('.' :: tld) := Text.breakAtLast?_eq_some hbreak
      have hhost : byteSlice? 0 (Text.byteLength host) (codes (host ++ '.' :: tld)) =
          some (codes host) := Text.byteSlice?_codes [] host ('.' :: tld)
      have htld := Text.byteSlice?_codes (host ++ ['.']) tld []
      rw [List.append_nil, List.append_assoc, List.singleton_append, Text.byteLength_concat host rfl,
        ← Text.length_codes (host ++ '.' :: tld)] at htld
      have halnum : Text.IgnoresForeign Domain.isAlphanumeric :=
        Text.ignoresForeign_of_isAscii fun c hc => Domain.isAscii_of_isNameChar (by
          rw [Domain.isNameChar, hc]
          rfl)
      have hletter : Text.IgnoresForeign Domain.isLetter :=
        Text.ignoresForeign_of_isAscii fun c hc => Domain.isAscii_of_isNameChar (by
          rw [Domain.isNameChar, Domain.isAlphanumeric, hc]
          rfl)
      have hlabel : Text.IgnoresForeign fun c => Domain.isAlphanumeric c || c == '-' :=
        Text.ignoresForeign_of_isAscii fun c hc => Domain.isAscii_of_isNameChar (by
          rw [Domain.isNameChar, hc]
          rfl)
      have hname : Text.IgnoresForeign Domain.isNameChar :=
        Text.ignoresForeign_of_isAscii fun _ => Domain.isAscii_of_isNameChar
      simp only [Option.map_some, hdomain, Option.bind_eq_bind]
      rw [hhost, Option.bind_some, htld, Option.bind_some, isHostName_eq,
        Text.any_head?_codes halnum, Text.any_getLast?_codes halnum, Text.all_codes hname,
        Text.any_head?_codes hletter, Text.all_codes hlabel, Text.length_codes, Text.length_codes]
      rfl

theorem encodeHost_eq
    (pattern : String) :
    encodeHost pattern = some (Pattern.encodeHost pattern) := by
  rw [encodeHost, patternHost_eq, Pattern.encodeHost, Option.bind_eq_bind, Option.bind_some]
  unfold Pattern.encodeHostWith
  cases Pattern.splitHost? pattern.toList with
  | none => rfl
  | some split =>
      dsimp only [Option.map_some]
      by_cases hascii : split.host.all Text.isAscii
      · rw [if_pos hascii, if_pos hascii]
        rfl
      rw [if_neg hascii, if_neg hascii]
      cases DomainEncoder.toAscii (String.ofList split.host) with
      | none => rfl
      | some encoded =>
          dsimp only
          rw [looksLikeHost_eq, Option.bind_eq_bind, Option.bind_some]
          split <;> rfl

end Checked
end FilterCompiler
