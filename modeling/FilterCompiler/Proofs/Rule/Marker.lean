import FilterCompiler.Proofs.Text
import FilterCompiler.Rule.Marker

/-!
# Lines cut at their markers

A line is cut at the leftmost marker: nothing is lost, and no marker begins in what
stands before the cut (`find?_eq_some_iff`).  A marker holds the sign `#` at its ends
only, so which markers begin before such a sign does not hang on what follows it
(`IsClear.of_hash`).  Hence a line whose marker and content are replaced by others is
cut at the same place (`find?_rebuild`).
-/

namespace FilterCompiler
namespace Marker

/-! ## One place -/

theorem atStart?_eq_some_iff
    {s rest : List Char}
    {marker : Marker} :
    atStart? s = some (marker, rest) ↔ s = marker.text.toList ++ rest := by
  constructor
  · intro h
    unfold atStart? at h
    split at h <;> cases h <;> rfl
  · rintro rfl
    cases marker <;> rfl

theorem atStart?_eq_none_iff
    {s : List Char} :
    atStart? s = none ↔ ∀ marker : Marker, ¬ marker.text.toList <+: s := by
  rw [Option.eq_none_iff_forall_ne_some, Prod.forall]
  simp only [Ne, atStart?_eq_some_iff]
  exact forall_congr' fun marker =>
    ⟨fun h ⟨rest, hrest⟩ => h rest hrest.symm, fun h rest hrest => h ⟨rest, hrest.symm⟩⟩

theorem text_ne_nil
    (marker : Marker) :
    marker.text.toList ≠ [] := by
  cases marker <;> exact List.cons_ne_nil _ _

theorem hash_notMem_inner
    (marker : Marker) :
    '#' ∉ marker.text.toList.tail.dropLast := by
  cases marker <;> decide

/-- A marker that begins before the sign `#` ends with it. -/
theorem eq_nil_of_text_eq
    {marker : Marker}
    {s rest : List Char}
    (hs : s ≠ [])
    (h : marker.text.toList = s ++ '#' :: rest) :
    rest = [] := by
  have hinner := hash_notMem_inner marker
  obtain ⟨c, s, rfl⟩ := List.exists_cons_of_ne_nil hs
  cases rest with
  | nil => rfl
  | cons d rest =>
      rw [h, List.cons_append, List.tail_cons, List.dropLast_append_cons] at hinner
      simp at hinner

/-- Which markers begin before the sign `#` does not hang on what follows it. -/
theorem atStart?_append_hash
    {s : List Char}
    (hs : s ≠ [])
    {rest : List Char}
    (h : atStart? (s ++ '#' :: rest) = none)
    (rest' : List Char) :
    atStart? (s ++ '#' :: rest') = none := by
  rw [atStart?_eq_none_iff] at h ⊢
  rintro marker ⟨after, hafter⟩
  rcases List.append_eq_append_iff.mp hafter with ⟨more, rfl, -⟩ | ⟨more, htext, hmore⟩
  · exact h marker ⟨more ++ '#' :: rest, by simp⟩
  · cases more with
    | nil => exact h marker ⟨'#' :: rest, by simp [htext]⟩
    | cons c more =>
        obtain ⟨rfl, -⟩ := List.cons.inj hmore
        have hmore := eq_nil_of_text_eq hs htext
        subst hmore
        exact h marker ⟨rest, by simp [htext]⟩

/-! ## The leftmost marker -/

/-- No marker begins in a text when `rest` follows it. -/
def IsClear : List Char → List Char → Prop
  | [], _ => True
  | c :: s, rest => atStart? (c :: s ++ rest) = none ∧ IsClear s rest

theorem IsClear.of_hash
    {s rest : List Char}
    (h : IsClear s ('#' :: rest))
    (rest' : List Char) :
    IsClear s ('#' :: rest') := by
  induction s with
  | nil => trivial
  | cons c s ih => exact ⟨atStart?_append_hash (List.cons_ne_nil c s) h.1 rest', ih h.2⟩

/-- Every marker begins with one of two signs. -/
theorem isClear_of_notMem
    {s : List Char}
    (hhash : '#' ∉ s)
    (hdollar : '$' ∉ s)
    (rest : List Char) :
    IsClear s rest := by
  induction s with
  | nil => trivial
  | cons c s ih =>
      rw [List.mem_cons, not_or] at hhash hdollar
      refine ⟨?_, ih hhash.2 hdollar.2⟩
      rw [atStart?_eq_none_iff]
      rintro marker ⟨after, hafter⟩
      have hhead := congrArg List.head? hafter
      have hsigns : ((marker.text.toList ++ after).head? = some '#') ∨
          (marker.text.toList ++ after).head? = some '$' := by
        cases marker <;> first | exact .inl rfl | exact .inr rfl
      rw [hhead] at hsigns
      rcases hsigns with hsign | hsign
      · exact hhash.1 (Option.some.inj hsign).symm
      · exact hdollar.1 (Option.some.inj hsign).symm

theorem search?_eq_some_iff
    {s : List Char}
    {cut : Cut} :
    search? s = some cut ↔
      s = cut.rebuild cut.marker cut.content ∧
        IsClear cut.domains (cut.marker.text.toList ++ cut.content) := by
  obtain ⟨domains, marker, content⟩ := cut
  simp only [Cut.rebuild, List.append_assoc]
  induction domains generalizing s with
  | nil =>
      rw [List.nil_append, ← atStart?_eq_some_iff]
      cases s with
      | nil => simp [search?, atStart?]
      | cons c s =>
          rw [search?]
          split
          · next hstart => simp [hstart, IsClear]
          · next hstart => simp [hstart]
  | cons d domains ih =>
      cases s with
      | nil => simp [search?]
      | cons c s =>
          rw [search?]
          split
          · next hstart =>
              constructor
              · rintro ⟨⟩
              · rintro ⟨hs, hclear, -⟩
                rw [List.cons_append] at hs hclear
                rw [hs, hclear] at hstart
                cases hstart
          · next hstart =>
              rw [Option.map_eq_some_iff]
              constructor
              · rintro ⟨⟨domains', marker', content'⟩, hcut, hcons⟩
                cases hcons
                obtain ⟨hs, hclear⟩ := ih.mp hcut
                rw [List.cons_append, ← hs]
                refine ⟨rfl, ?_, hclear⟩
                rw [List.cons_append, ← hs]
                exact hstart
              · rintro ⟨hs, -, hclear⟩
                obtain ⟨rfl, htail⟩ := List.cons.inj hs
                exact ⟨⟨domains, marker, content⟩, ih.mpr ⟨htail, hclear⟩, rfl⟩

/-- A text is not cut if no marker is found in it. -/
theorem search?_eq_none_iff
    {s : List Char} :
    search? s = none ↔ ∀ marker : Marker, ¬ marker.text.toList <:+: s := by
  induction s with
  | nil =>
      refine iff_of_true rfl fun marker h => ?_
      cases marker <;> exact absurd (List.infix_nil.mp h) (by decide)
  | cons c s ih =>
      simp only [List.infix_cons_iff, not_or, forall_and]
      rw [search?, ← ih, ← atStart?_eq_none_iff]
      cases atStart? (c :: s) <;> simp

/-! ## Lines -/

/-- **A line is cut at its leftmost marker.** -/
theorem find?_eq_some_iff
    {line : List Char}
    {cut : Cut} :
    find? line = some cut ↔
      isNetworkLine line = false ∧ line = cut.rebuild cut.marker cut.content ∧
        IsClear cut.domains (cut.marker.text.toList ++ cut.content) := by
  rw [find?, ← search?_eq_some_iff]
  cases isNetworkLine line <;> simp

theorem Cut.isPrefix_rebuild
    (cut : Cut)
    (marker : Marker)
    (content : List Char) :
    cut.domains <+: cut.rebuild marker content := by
  rw [rebuild, List.append_assoc]
  exact List.prefix_append _ _

/-- What stands in front of the marker begins the line. -/
theorem isPrefix_of_find?
    {line : List Char}
    {cut : Cut}
    (h : find? line = some cut) :
    cut.domains <+: line := by
  obtain ⟨-, hline, -⟩ := find?_eq_some_iff.mp h
  exact hline ▸ cut.isPrefix_rebuild cut.marker cut.content

/-- The signs of a network rule stand in what is in front of a sign of options. -/
theorem isNetworkLine_append_dollar
    {first options options' : List Char}
    (hsize : 2 < Text.byteLength (first ++ '$' :: options))
    (h : isNetworkLine (first ++ '$' :: options') = false) :
    isNetworkLine (first ++ '$' :: options) = false := by
  simp only [isNetworkLine, List.head?_append, List.head?_cons, Bool.or_eq_false_iff,
    decide_eq_false_iff_not] at h ⊢
  exact ⟨⟨Nat.not_le_of_lt hsize, h.1.2⟩, h.2⟩

/-- The signs of a network rule stand in what is in front of a marker. -/
theorem isNetworkLine_rebuild
    {cut : Cut}
    (h : isNetworkLine (cut.rebuild cut.marker cut.content) = false)
    {marker : Marker}
    (hmarker : marker.text.toList.head? = some '#')
    (hsize : 2 < Text.byteLength marker.text.toList)
    (content : List Char) :
    isNetworkLine (cut.rebuild marker content) = false := by
  obtain ⟨domains, old, oldContent⟩ := cut
  simp only [isNetworkLine, Bool.or_eq_false_iff, decide_eq_false_iff_not, Cut.rebuild,
    List.append_assoc, Text.byteLength_append] at h ⊢
  refine ⟨⟨by omega, ?_⟩, ?_⟩
  all_goals
    cases domains with
    | nil => simp [List.head?_append, hmarker]
    | cons c domains => first | exact h.1.2 | exact h.2

/-- **A line with another marker and another content is cut at the same place.** -/
theorem find?_rebuild
    {line : List Char}
    {cut : Cut}
    (h : find? line = some cut)
    (hcut : cut.marker.text.toList.head? = some '#')
    {marker : Marker}
    (hmarker : marker.text.toList.head? = some '#')
    (hsize : 2 < Text.byteLength marker.text.toList)
    (content : List Char) :
    find? (cut.rebuild marker content) = some { cut with marker, content } := by
  obtain ⟨hnetwork, rfl, hclear⟩ := find?_eq_some_iff.mp h
  rw [find?_eq_some_iff]
  refine ⟨isNetworkLine_rebuild hnetwork hmarker hsize content, rfl, ?_⟩
  obtain ⟨old, hold⟩ := List.head?_eq_some_iff.mp hcut
  obtain ⟨new, hnew⟩ := List.head?_eq_some_iff.mp hmarker
  rw [hold] at hclear
  dsimp only
  rw [hnew]
  exact hclear.of_hash _

end Marker
end FilterCompiler
