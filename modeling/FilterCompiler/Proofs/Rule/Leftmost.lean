import FilterCompiler.Proofs.Rule.Marker
import FilterCompiler.Proofs.Text.Bytes

/-!
# The leftmost marker

Where a marker stands is told by the byte at which it begins.  All markers are ASCII, so
what begins with the bytes of a marker begins with the marker (`standsAt_iff`), and at one
byte at most one of them stands (`StandsAt.eq`).  A line is cut where a marker stands and
no marker stands before (`find?_leftmost`).
-/

namespace FilterCompiler
namespace Marker

/-- The marker stands in the text at byte `i`. -/
def StandsAt (marker : Marker) (i : Nat) (s : List Char) : Prop :=
  Text.utf8 marker.text.toList <+: (Text.utf8 s).drop i

/-- The byte at which the marker of a cut begins, and the marker. -/
def Cut.place (cut : Cut) : Nat × Marker := (Text.byteLength cut.domains, cut.marker)

/-! ## Markers at a byte -/

theorem allAscii_text
    (marker : Marker) :
    Text.AllAscii marker.text.toList := by
  cases marker <;> decide

/-- **Bytes of a marker are the marker.** -/
theorem standsAt_iff
    {marker : Marker}
    {i : Nat}
    {s : List Char} :
    marker.StandsAt i s ↔
      ∃ before after, s = before ++ (marker.text.toList ++ after) ∧
        Text.byteLength before = i :=
  Text.isPrefix_drop_utf8_iff marker.text_ne_nil marker.allAscii_text

/-- A marker at a byte is in front or behind the first character. -/
theorem standsAt_cons_iff
    {marker : Marker}
    {i : Nat}
    {c : Char}
    {s : List Char} :
    marker.StandsAt i (c :: s) ↔
      (i = 0 ∧ marker.text.toList <+: c :: s) ∨
        ∃ k, i = c.utf8Size + k ∧ marker.StandsAt k s := by
  simp only [standsAt_iff]
  constructor
  · rintro ⟨before, after, hs, rfl⟩
    cases before with
    | nil => exact .inl ⟨rfl, after, hs.symm⟩
    | cons d before =>
        obtain ⟨rfl, rfl⟩ := List.cons.inj hs
        exact .inr ⟨_, rfl, before, after, rfl, rfl⟩
  · rintro (⟨rfl, after, hs⟩ | ⟨_, rfl, before, after, rfl, rfl⟩)
    · exact ⟨[], after, hs.symm, rfl⟩
    · exact ⟨c :: before, after, rfl, rfl⟩

/-- **At one byte at most one marker stands.** -/
theorem StandsAt.eq
    {marker marker' : Marker}
    {i : Nat}
    {s : List Char}
    (h : marker.StandsAt i s)
    (h' : marker'.StandsAt i s) :
    marker = marker' := by
  obtain ⟨before, after, rfl, rfl⟩ := standsAt_iff.mp h
  obtain ⟨before', after', heq, hlength⟩ := standsAt_iff.mp h'
  obtain ⟨-, htail⟩ := Text.append_inj_of_byteLength heq hlength.symm
  have hstart := atStart?_eq_some_iff.mpr htail
  rw [atStart?_eq_some_iff.mpr rfl] at hstart
  cases hstart
  rfl

/-- No marker begins in a text if none stands at one of its bytes. -/
theorem isClear_iff
    {s rest : List Char} :
    IsClear s rest ↔
      ∀ i < Text.byteLength s, ∀ marker : Marker, ¬ marker.StandsAt i (s ++ rest) := by
  induction s with
  | nil => exact iff_of_true trivial fun i hi => absurd hi (Nat.not_lt_zero i)
  | cons c s ih =>
      rw [IsClear, ih, atStart?_eq_none_iff, Text.byteLength, List.cons_append]
      simp only [standsAt_cons_iff]
      constructor
      · rintro ⟨hstart, hrest⟩ i hi marker (⟨rfl, hlead⟩ | ⟨k, rfl, hstands⟩)
        · exact hstart marker hlead
        · exact hrest k (by omega) marker hstands
      · intro h
        refine ⟨fun marker hlead => ?_, fun k hk marker hstands => ?_⟩
        · have hpos := c.utf8Size_pos
          exact h 0 (by omega) marker (.inl ⟨rfl, hlead⟩)
        · exact h (c.utf8Size + k) (by omega) marker (.inr ⟨k, rfl, hstands⟩)

/-! ## Where a line is cut -/

/-- A text is cut where a marker stands and no marker stands before. -/
theorem place_search?_eq_some_iff
    {s : List Char}
    {i : Nat}
    {marker : Marker} :
    (search? s).map Cut.place = some (i, marker) ↔
      marker.StandsAt i s ∧ ∀ j < i, ∀ other : Marker, ¬ other.StandsAt j s := by
  rw [Option.map_eq_some_iff]
  constructor
  · rintro ⟨cut, hcut, hplace⟩
    cases hplace
    obtain ⟨hs, hclear⟩ := search?_eq_some_iff.mp hcut
    rw [Cut.rebuild, List.append_assoc] at hs
    rw [isClear_iff, ← hs] at hclear
    exact ⟨standsAt_iff.mpr ⟨cut.domains, cut.content, hs, rfl⟩, hclear⟩
  · rintro ⟨hstands, hbefore⟩
    obtain ⟨domains, content, hs, rfl⟩ := standsAt_iff.mp hstands
    refine ⟨⟨domains, marker, content⟩, search?_eq_some_iff.mpr ⟨?_, ?_⟩, rfl⟩
    · rw [Cut.rebuild, List.append_assoc]
      exact hs
    · rw [isClear_iff, ← hs]
      exact hbefore

/-- A marker occurs in a text if it stands at some byte. -/
theorem isInfix_text_iff
    {marker : Marker}
    {s : List Char} :
    marker.text.toList <:+: s ↔ ∃ i, marker.StandsAt i s := by
  simp only [standsAt_iff]
  constructor
  · rintro ⟨before, after, rfl⟩
    exact ⟨_, before, after, List.append_assoc _ _ _, rfl⟩
  · rintro ⟨_, before, after, rfl, -⟩
    exact ⟨before, after, List.append_assoc _ _ _⟩

/-- **The leftmost marker is found**: a line that can be other than a network rule is cut
at byte `i` at a marker if and only if that marker stands there and no marker stands at a
byte before, and it is not cut if and only if no marker stands in it.  At each byte at most
one marker stands. -/
theorem find?_leftmost
    {line : List Char}
    (hsize : 2 < Text.byteLength line)
    (hbar : line.head? ≠ some '|')
    (hat : line.head? ≠ some '@') :
    (∀ i marker, (find? line).map Cut.place = some (i, marker) ↔
      marker.StandsAt i line ∧ ∀ j < i, ∀ other : Marker, ¬ other.StandsAt j line) ∧
    (find? line = none ↔ ∀ (marker : Marker) i, ¬ marker.StandsAt i line) ∧
    ∀ i (marker marker' : Marker),
      marker.StandsAt i line → marker'.StandsAt i line → marker = marker' := by
  have hnetwork : isNetworkLine line = false := by
    simp only [isNetworkLine, Bool.or_eq_false_iff, decide_eq_false_iff_not, Nat.not_le,
      beq_eq_false_iff_ne]
    exact ⟨⟨hsize, hbar⟩, hat⟩
  have hfind : find? line = search? line := by rw [find?, hnetwork, if_neg Bool.false_ne_true]
  rw [hfind]
  refine ⟨fun i marker => place_search?_eq_some_iff, ?_, fun i marker marker' => StandsAt.eq⟩
  simp only [search?_eq_none_iff, isInfix_text_iff, not_exists]

/-- Behind characters of several bytes, at the end of the line and before another marker. -/
theorem find?_leftmost_accents :
    (find? "é$@#@$?##".toList).map Cut.place = some (4, .styleExtendedException) ∧
      ∀ j < 4, ∀ other : Marker, ¬ other.StandsAt j "é$@#@$?##".toList := by
  have hplace :
      (find? "é$@#@$?##".toList).map Cut.place = some (4, .styleExtendedException) := by
    decide
  exact ⟨hplace, ((find?_leftmost (by decide) (by decide) (by decide)).1 4 _).mp hplace |>.2⟩

end Marker
end FilterCompiler
