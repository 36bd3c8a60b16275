import FilterCompiler.Proofs.Ruleset.RoundTrip
import FilterCompiler.Ruleset.Assemble

/-!
# The entries that fit

While a ruleset is filled its text is that of the entries so far without the
bracket at the end.  One step adds the next entry if the limits admit the
entries with it (`fill_cons`); hence a run adds a prefix of the entries, and
stops before an entry only if the limits do not admit it (`fill_eq`).
-/

namespace FilterCompiler

/-- The text of some entries without the bracket at the end. -/
def Ruleset.openText (entries : List Entry) : String :=
  "[" ++ String.intercalate "," (entries.map Entry.text)

namespace Assembled

/-- The limits admit a ruleset of these entries. -/
def Limits.Admits (limits : Limits) (entries : List Entry) : Prop :=
  entries.length ≤ limits.entries ∧
    ∀ max ∈ limits.bytes, (Ruleset.text entries).utf8ByteSize ≤ max

instance (limits : Limits) (entries : List Entry) : Decidable (limits.Admits entries) :=
  inferInstanceAs (Decidable (_ ∧ _))

/-! ## One more entry -/

theorem openText_nil : Ruleset.openText [] = "[" := by simp [Ruleset.openText]

/-- The text with one more entry after a separator. -/
theorem openText_concat
    (done : List Entry)
    (entry : Entry) :
    Ruleset.openText done ++ separator done.length ++ entry.text =
      Ruleset.openText (done ++ [entry]) := by
  cases done with
  | nil => simp [Ruleset.openText, separator]
  | cons first done =>
      have hne : (first :: done).map Entry.text ≠ [] := by simp
      rw [Ruleset.openText, Ruleset.openText, List.map_append,
        String.intercalate_append_of_ne_nil hne (by simp)]
      simp [separator, String.append_assoc]

/-- The size that is compared to the limit is that of the whole text. -/
theorem utf8ByteSize_text_concat
    (done : List Entry)
    (entry : Entry) :
    (Ruleset.openText done).utf8ByteSize + (separator done.length).utf8ByteSize +
        entry.text.utf8ByteSize + 1 =
      (Ruleset.text (done ++ [entry])).utf8ByteSize := by
  have htext : Ruleset.text (done ++ [entry]) = Ruleset.openText (done ++ [entry]) ++ "]" := rfl
  rw [htext, ← openText_concat]
  simp only [String.utf8ByteSize_append]
  rfl

theorem Limits.isExceededBy_eq_false_iff
    (limits : Limits)
    (size : Nat) :
    limits.isExceededBy size = false ↔ ∀ max ∈ limits.bytes, size ≤ max := by
  unfold isExceededBy
  cases limits.bytes with
  | none => simp
  | some max => simp

/-- **A step adds the next entry if the limits admit the entries with it.** -/
theorem fill_cons
    (limits : Limits)
    (done : List Entry)
    (entry : Entry)
    (entries : List Entry) :
    fill limits (Ruleset.openText done) done.length (entry :: entries) =
      if limits.Admits (done ++ [entry]) then
        fill limits (Ruleset.openText (done ++ [entry])) (done ++ [entry]).length entries
      else (Ruleset.openText done, done.length) := by
  have hlength : (done ++ [entry]).length = done.length + 1 := by simp
  rw [fill]
  by_cases hcount : limits.entries ≤ done.length
  · have hnot : ¬ limits.Admits (done ++ [entry]) := by
      rintro ⟨hadmitted, -⟩
      omega
    rw [if_pos hcount, if_neg hnot]
  rw [if_neg hcount]
  simp only [utf8ByteSize_text_concat, openText_concat, ← hlength]
  cases hexceeded : limits.isExceededBy (Ruleset.text (done ++ [entry])).utf8ByteSize with
  | true =>
      have hnot : ¬ limits.Admits (done ++ [entry]) := by
        rintro ⟨-, hadmitted⟩
        rw [← Limits.isExceededBy_eq_false_iff, hexceeded] at hadmitted
        cases hadmitted
      rw [if_pos rfl, if_neg hnot]
  | false =>
      have hadmits : limits.Admits (done ++ [entry]) := by
        refine ⟨by omega, ?_⟩
        exact (Limits.isExceededBy_eq_false_iff _ _).mp hexceeded
      rw [if_neg (by simp), if_pos hadmits]

/-! ## All entries -/

/-- **Filling adds a prefix that the limits admit**, and stops before an entry
only if they do not admit the prefix with it. -/
theorem fill_eq
    (limits : Limits)
    (done entries : List Entry) :
    ∃ k ≤ entries.length,
      fill limits (Ruleset.openText done) done.length entries =
        (Ruleset.openText (done ++ entries.take k), done.length + k) ∧
      (0 < k → limits.Admits (done ++ entries.take k)) ∧
      (k < entries.length → ¬ limits.Admits (done ++ entries.take (k + 1))) := by
  induction entries generalizing done with
  | nil => exact ⟨0, by simp [fill]⟩
  | cons entry entries ih =>
      rw [fill_cons]
      split
      · next hadmits =>
          obtain ⟨k, hk, hfill, hprefix, hstop⟩ := ih (done ++ [entry])
          refine ⟨k + 1, by simpa using hk, ?_, fun _ => ?_, fun hlt => ?_⟩
          · rw [hfill]
            simp [Nat.add_comm, Nat.add_left_comm]
          · cases k with
            | zero => simpa using hadmits
            | succ k => simpa using hprefix (by omega)
          · simpa using hstop (by simpa using hlt)
      · next hadmits => exact ⟨0, by simpa using hadmits⟩

/-- **A ruleset holds the longest prefix of the entries that the limits
admit**, one entry after the other; without entries it is the neutral one. -/
theorem ofEntries_eq
    (limits : Limits)
    (entries : List Entry) :
    ∃ k ≤ entries.length,
      ofEntries limits entries =
        { json := if k = 0 then neutralRuleset else Ruleset.text (entries.take k)
          entriesCount := k
          discardedCount := entries.length - k } ∧
      (0 < k → limits.Admits (entries.take k)) ∧
      (k < entries.length → ¬ limits.Admits (entries.take (k + 1))) := by
  obtain ⟨k, hk, hfill, hprefix, hstop⟩ := fill_eq limits [] entries
  refine ⟨k, hk, ?_, hprefix, hstop⟩
  rw [openText_nil, List.length_nil, Nat.zero_add, List.nil_append] at hfill
  rw [ofEntries, hfill]
  rfl

/-! ## A limit that does not bear -/

theorem le_utf8ByteSize_fill
    (limits : Limits)
    (json : String)
    (kept : Nat)
    (entries : List Entry) :
    json.utf8ByteSize ≤ (fill limits json kept entries).1.utf8ByteSize := by
  induction entries generalizing json kept with
  | nil => exact Nat.le_refl _
  | cons entry entries ih =>
      rw [fill]
      split
      · exact Nat.le_refl _
      · dsimp only
        split
        · exact Nat.le_refl _
        · refine Nat.le_trans ?_ (ih _ _)
          simp only [String.utf8ByteSize_append]
          omega

/-- A limit on the size makes no difference to what stays below it. -/
theorem fill_eq_of_lt
    {count max : Nat}
    {json : String}
    {kept : Nat}
    {entries : List Entry}
    (h : (fill { entries := count, bytes := none } json kept entries).1.utf8ByteSize < max) :
    fill { entries := count, bytes := some max } json kept entries =
      fill { entries := count, bytes := none } json kept entries := by
  induction entries generalizing json kept with
  | nil => rfl
  | cons entry entries ih =>
      have hnone : ∀ size, Limits.isExceededBy { entries := count, bytes := none } size = false :=
        fun _ => rfl
      simp only [fill, hnone, Bool.false_eq_true, if_false] at h ⊢
      split
      · rfl
      · next hcount =>
          rw [if_neg hcount] at h
          have hle := le_utf8ByteSize_fill { entries := count, bytes := none }
            (json ++ separator kept ++ entry.text) (kept + 1) entries
          have hfits : Limits.isExceededBy { entries := count, bytes := some max }
              (json.utf8ByteSize + (separator kept).utf8ByteSize + entry.text.utf8ByteSize + 1) =
                false := by
            simp only [String.utf8ByteSize_append] at hle
            simp only [Limits.isExceededBy_eq_false_iff, Option.mem_def, Option.some.injEq]
            omega
          simp only [hfits, Bool.false_eq_true, if_false]
          exact ih h

/-- **A limit that a ruleset keeps without it makes no difference.** -/
theorem ofEntries_eq_of_le
    (count : Nat)
    (entries : List Entry)
    {max : Nat}
    (hmax : 2 ≤ max)
    (h : (ofEntries { entries := count, bytes := none } entries).json.utf8ByteSize ≤ max) :
    ofEntries { entries := count, bytes := some max } entries =
      ofEntries { entries := count, bytes := none } entries := by
  obtain ⟨k, -, hfill, -⟩ := fill_eq { entries := count, bytes := none } [] entries
  rw [openText_nil, List.length_nil, Nat.zero_add, List.nil_append] at hfill
  have hlt : (fill { entries := count, bytes := none } "[" 0 entries).1.utf8ByteSize < max := by
    rw [ofEntries, hfill] at h
    rw [hfill]
    by_cases hk : k = 0
    · rw [hk, List.take_zero, openText_nil]
      exact hmax
    · dsimp only at h
      rw [if_neg hk, String.utf8ByteSize_append] at h
      exact h
  rw [ofEntries, ofEntries, fill_eq_of_lt hlt]

/-- The entries that are sorted are those of the rules. -/
theorem mem_sortedEntries
    {version : HostVersion}
    {rules : List Rule}
    {entry : Entry} :
    entry ∈ sortedEntries version rules ↔
      ∃ rule ∈ rules, ∃ grouped, rule.toEntry version = some grouped ∧
        grouped.entry = entry := by
  simp only [sortedEntries, List.mem_map, List.mem_mergeSort, List.mem_filterMap]
  constructor
  · rintro ⟨grouped, ⟨rule, hrule, hgrouped⟩, hentry⟩
    exact ⟨rule, hrule, grouped, hgrouped, hentry⟩
  · rintro ⟨rule, hrule, grouped, hgrouped, hentry⟩
    exact ⟨grouped, ⟨rule, hrule, hgrouped⟩, hentry⟩

end Assembled
end FilterCompiler
