import FilterCompiler.Proofs.Rule.Leftmost
import FilterCompiler.Proofs.Text.Slice

/-!
# Markers found byte by byte

The reader as it works on the bytes of a line: it walks over them by number and cuts the
line at the numbers that it finds.  Here every index and every slice is checked, and the
whole comes to nothing if one of them is out of range or inside a character.  That this
never happens is shown function by function: each one gives what the function on
characters gives, and always gives it.

This module is about the scan for the marker of a line (`findMarker_eq`).
-/

namespace FilterCompiler
namespace Checked

open Text (codes sub? sliceTo? sliceFrom?)

/-! ## Loops -/

/-- A loop whose every round succeeds is the loop over what the rounds give. -/
theorem findSomeM?_eq
    {α β : Type}
    {f : α → Option (Option β)}
    {g : α → Option β}
    {l : List α}
    (h : ∀ a ∈ l, f a = some (g a)) :
    l.findSomeM? f = some (l.findSome? g) := by
  induction l with
  | nil => rfl
  | cons a l ih =>
      rw [List.forall_mem_cons] at h
      rw [List.findSomeM?, h.1, List.findSome?_cons, ih h.2]
      cases g a <;> rfl

/-- The first number below `n` for which `f` has an answer. -/
theorem findSome?_range_eq_some_iff
    {α : Type}
    {f : Nat → Option α}
    {n : Nat}
    {a : α} :
    (List.range n).findSome? f = some a ↔ ∃ i < n, f i = some a ∧ ∀ j < i, f j = none := by
  induction n with
  | zero => simp
  | succ n ih =>
      rw [List.range_succ, List.findSome?_append, Option.or_eq_some_iff, ih,
        List.findSome?_singleton, List.findSome?_eq_none_iff]
      simp only [List.mem_range]
      constructor
      · rintro (⟨i, hi, hfound⟩ | ⟨hnone, hn⟩)
        · exact ⟨i, by omega, hfound⟩
        · exact ⟨n, Nat.lt_succ_self n, hn, hnone⟩
      · rintro ⟨i, hi, ha, hnone⟩
        rcases Nat.lt_succ_iff_lt_or_eq.mp hi with hi | rfl
        · exact .inl ⟨i, hi, ha, hnone⟩
        · exact .inr ⟨hnone, ha⟩

/-! ## The scan -/

/-- The marker that begins at byte `pos`, read off that byte and the four behind it. -/
def markerAt? (bytes : List Char) (pos : Nat) : Option (Option Marker) := do
  let b ← bytes[pos]?
  if b = '#' then
    return match bytes[pos + 1]?, bytes[pos + 2]?, bytes[pos + 3]?, bytes[pos + 4]? with
      | some '@', some '$', some '#', _ => some .styleException
      | some '@', some '$', some '?', some '#' => some .styleExtendedException
      | some '@', some '?', some '#', _ => some .hideExtendedException
      | some '@', some '%', some '#', _ => some .scriptException
      | some '@', some '#', _, _ => some .hideException
      | some '$', some '?', some '#', _ => some .styleExtended
      | some '$', some '#', _, _ => some .style
      | some '?', some '#', _, _ => some .hideExtended
      | some '%', some '#', _, _ => some .script
      | some '#', _, _, _ => some .hide
      | _, _, _, _ => none
  else if b = '$' then
    return match bytes[pos + 1]?, bytes[pos + 2]? with
      | some '@', some '$' => some .htmlException
      | some '$', _ => some .html
      | _, _ => none
  else return none

/-- The byte at which the marker of a line begins, and the marker. -/
def findMarker (line : List Char) : Option (Option (Nat × Marker)) := do
  let bytes := codes line
  if bytes.length ≤ 2 then return none
  let first ← bytes[0]?
  if first = '|' ∨ first = '@' then return none
  let last ← sub? bytes.length 2
  (List.range (last + 1)).findSomeM? fun pos => do
    return (← markerAt? bytes pos).map (pos, ·)

theorem cons_isPrefix_drop_iff
    {bytes needle : List Char}
    {c : Char}
    {i : Nat} :
    c :: needle <+: bytes.drop i ↔ bytes[i]? = some c ∧ needle <+: bytes.drop (i + 1) := by
  rw [← List.head?_drop, ← List.tail_drop]
  cases bytes.drop i with
  | nil => simp
  | cons d rest => simp [List.cons_prefix_cons, eq_comm]

/-- **The marker at a byte is the one whose text stands there.** -/
theorem markerAt?_eq_some_iff
    {bytes : List Char}
    {pos : Nat}
    {marker : Marker} :
    markerAt? bytes pos = some (some marker) ↔ marker.text.toList <+: bytes.drop pos := by
  constructor
  · intro h
    rw [markerAt?, Option.bind_eq_bind, Option.bind_eq_some_iff] at h
    obtain ⟨b, hb, h⟩ := h
    split at h
    · next hhash =>
        subst hhash
        rw [Option.pure_def, Option.some.injEq] at h
        split at h <;> cases h <;>
          simp_all [Marker.text, cons_isPrefix_drop_iff]
    split at h
    · next hdollar =>
        subst hdollar
        rw [Option.pure_def, Option.some.injEq] at h
        split at h <;> cases h <;>
          simp_all [Marker.text, cons_isPrefix_drop_iff]
    · cases h
  · intro h
    cases marker <;>
      simp [Marker.text, cons_isPrefix_drop_iff] at h <;> simp [markerAt?, h]

theorem exists_markerAt?
    {bytes : List Char}
    {pos : Nat}
    (h : pos < bytes.length) :
    ∃ marker?, markerAt? bytes pos = some marker? := by
  rw [markerAt?, List.getElem?_eq_getElem h, Option.bind_eq_bind, Option.bind_some]
  split
  · exact ⟨_, rfl⟩
  split
  · exact ⟨_, rfl⟩
  · exact ⟨_, rfl⟩

theorem standsAt_iff_codes
    {marker : Marker}
    {pos : Nat}
    {line : List Char} :
    marker.StandsAt pos line ↔ marker.text.toList <+: (codes line).drop pos := by
  rw [Marker.standsAt_iff, Text.isPrefix_drop_codes_iff marker.text_ne_nil marker.allAscii_text]

/-- A marker has two bytes at least. -/
theorem add_two_le_of_standsAt
    {marker : Marker}
    {pos : Nat}
    {line : List Char}
    (h : marker.StandsAt pos line) :
    pos + 2 ≤ (codes line).length := by
  have hlength := (standsAt_iff_codes.mp h).length_le
  have htwo : 2 ≤ marker.text.toList.length := by cases marker <;> decide
  rw [List.length_drop] at hlength
  omega

/-- A scan up to the last byte but one finds the leftmost marker. -/
theorem scan_eq
    {line : List Char}
    (h : 2 ≤ (codes line).length) :
    ((List.range ((codes line).length - 2 + 1)).findSomeM? fun pos => do
        return (← markerAt? (codes line) pos).map (pos, ·)) =
      some ((Marker.search? line).map Marker.Cut.place) := by
  have hround : ∀ pos ∈ List.range ((codes line).length - 2 + 1),
      (do return (← markerAt? (codes line) pos).map (pos, ·) : Option (Option (Nat × Marker))) =
        some (((markerAt? (codes line) pos).getD none).map (pos, ·)) := by
    intro pos hpos
    rw [List.mem_range] at hpos
    obtain ⟨marker?, hmarker⟩ := exists_markerAt? (show pos < (codes line).length by omega)
    rw [hmarker]
    rfl
  rw [findSomeM?_eq hround, Option.some.injEq]
  have hfound : ∀ pos marker, pos < (codes line).length →
      ((markerAt? (codes line) pos).getD none = some marker ↔ marker.StandsAt pos line) := by
    intro pos marker hpos
    obtain ⟨marker?, hmarker⟩ := exists_markerAt? hpos
    rw [standsAt_iff_codes, ← markerAt?_eq_some_iff, hmarker, Option.getD_some, Option.some.injEq]
  refine Option.ext fun ⟨pos, marker⟩ => ?_
  rw [findSome?_range_eq_some_iff, Marker.place_search?_eq_some_iff]
  simp only [Option.map_eq_some_iff, Option.map_eq_none_iff]
  simp only [Option.eq_none_iff_forall_ne_some]
  constructor
  · rintro ⟨_, hpos, ⟨_, hmarker, hplace⟩, hbefore⟩
    cases hplace
    refine ⟨(hfound _ _ (by omega)).mp hmarker, fun i hi other hstands => ?_⟩
    exact hbefore i hi other ((hfound _ _ (by omega)).mpr hstands)
  · rintro ⟨hstands, hbefore⟩
    have hpos := add_two_le_of_standsAt hstands
    refine ⟨pos, by omega, ⟨marker, (hfound _ _ (by omega)).mpr hstands, rfl⟩, ?_⟩
    exact fun i hi other hother => hbefore i hi other ((hfound _ _ (by omega)).mp hother)

/-- **The scan finds the marker at which the line is cut.** -/
theorem findMarker_eq
    (line : List Char) :
    findMarker line = some ((Marker.find? line).map Marker.Cut.place) := by
  rw [findMarker, Marker.find?]
  by_cases hshort : (codes line).length ≤ 2
  · have hnetwork : Marker.isNetworkLine line := by
      rw [Text.length_codes] at hshort
      simp [Marker.isNetworkLine, hshort]
    rw [if_pos hshort, if_pos hnetwork]
    rfl
  have hsigns : Marker.isNetworkLine line ↔
      (codes line)[0]? = some '|' ∨ (codes line)[0]? = some '@' := by
    rw [← List.head?_eq_getElem?, Text.head?_codes_eq_some_iff (by decide),
      Text.head?_codes_eq_some_iff (by decide), Marker.isNetworkLine, ← Text.length_codes,
      decide_eq_false hshort]
    simp
  have hfirst := List.getElem?_eq_getElem (l := codes line) (i := 0) (by omega)
  rw [hfirst, Option.some.injEq, Option.some.injEq] at hsigns
  rw [if_neg hshort, hfirst, Option.bind_eq_bind, Option.bind_some]
  by_cases hnetwork : Marker.isNetworkLine line
  · rw [if_pos (hsigns.mp hnetwork), if_pos hnetwork]
    rfl
  · rw [if_neg (mt hsigns.mpr hnetwork), if_neg hnetwork, Text.sub?_of_le (by omega),
      Option.bind_eq_bind, Option.bind_some, scan_eq (by omega)]

/-- **A line can be cut in front of its marker and behind it.** -/
theorem slices_of_find?
    {line : List Char}
    {cut : Marker.Cut}
    (h : Marker.find? line = some cut) :
    sliceTo? cut.place.1 line = some cut.domains ∧
      sliceFrom? cut.place.1 line = some (cut.marker.text.toList ++ cut.content) ∧
      sliceFrom? (cut.place.1 + cut.marker.text.toList.length) line = some cut.content := by
  have hline := (Marker.find?_eq_some_iff.mp h).2.1
  have hlength : Text.byteLength cut.marker.text.toList = cut.marker.text.toList.length :=
    Text.byteLength_of_isAscii cut.marker.allAscii_text
  rw [Text.sliceTo?_eq_some_iff, Text.sliceFrom?_eq_some_iff, Text.sliceFrom?_eq_some_iff]
  refine ⟨⟨_, hline.trans (List.append_assoc _ _ _), rfl⟩,
    ⟨_, hline.trans (List.append_assoc _ _ _), rfl⟩, ⟨_, hline, ?_⟩⟩
  rw [Text.byteLength_append, hlength]
  rfl

end Checked
end FilterCompiler
