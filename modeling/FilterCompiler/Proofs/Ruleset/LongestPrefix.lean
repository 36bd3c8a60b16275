import FilterCompiler.Proofs.Ruleset.Assemble
import Mathlib.Order.Bounds.Defs
import Mathlib.Tactic.ByContra

/-!
# The longest prefix of the sorted entries

The entries of some rules are sorted by group, and entries of one group keep the
order of the rules (`sortedEntries_eq`).  Limits that admit some entries admit
every prefix of them, so stopping at the first entry that does not fit keeps the
longest prefix that fits (`ofRules_longestPrefix`), and wider limits keep more.
-/

namespace FilterCompiler

/-! ## Groups in order -/

namespace EntryGroup

/-- All groups in the order in which they are emitted. -/
def inOrder : List EntryGroup :=
  [.genericHide, .genericHideException, .domainHide, .elemhideException, .blocking, .exception,
   .important, .importantException, .documentException]

theorem pairwise_inOrder : inOrder.Pairwise (·.rank ≤ ·.rank) := by decide

theorem rank_injective
    {a b : EntryGroup}
    (h : a.rank = b.rank) :
    a = b := by
  cases a <;> cases b <;> first | rfl | cases h

theorem flatMap_inOrder
    {α : Type}
    (group : EntryGroup)
    (items : List α) :
    (inOrder.flatMap fun other => if other = group then items else []) = items := by
  cases group <;> simp [inOrder]

end EntryGroup

namespace GroupedEntry

/-- The first entry comes before the second one, or is in the same group. -/
def le (a b : GroupedEntry) : Bool := decide (a.group.rank ≤ b.group.rank)

theorem le_trans
    (a b c : GroupedEntry)
    (hab : le a b)
    (hbc : le b c) :
    le a c := by
  rw [le, decide_eq_true_iff] at *
  omega

theorem le_total
    (a b : GroupedEntry) :
    le a b || le b a := by
  simp only [le, Bool.or_eq_true, decide_eq_true_iff]
  omega

def ofGroup (entries : List GroupedEntry) (group : EntryGroup) : List GroupedEntry :=
  entries.filter (·.group = group)

theorem group_of_mem_ofGroup
    {entries : List GroupedEntry}
    {group : EntryGroup}
    {entry : GroupedEntry}
    (h : entry ∈ ofGroup entries group) :
    entry.group = group := by
  simpa [ofGroup] using (List.mem_filter.mp h).2

theorem ofGroup_cons
    (entry : GroupedEntry)
    (entries : List GroupedEntry)
    (group : EntryGroup) :
    ofGroup (entry :: entries) group =
      if entry.group = group then entry :: ofGroup entries group else ofGroup entries group := by
  simp [ofGroup, List.filter_cons]

theorem ofGroup_ofGroup
    (entries : List GroupedEntry)
    (group other : EntryGroup) :
    ofGroup (ofGroup entries other) group = if other = group then ofGroup entries group else [] := by
  split
  · next h =>
      subst h
      rw [ofGroup, List.filter_eq_self]
      intro entry hentry
      exact decide_eq_true (group_of_mem_ofGroup hentry)
  · next h =>
      rw [ofGroup, List.filter_eq_nil_iff]
      intro entry hentry hgroup
      exact h ((group_of_mem_ofGroup hentry).symm.trans (of_decide_eq_true hgroup))

theorem pairwise_ofGroup
    (entries : List GroupedEntry)
    (group : EntryGroup) :
    (ofGroup entries group).Pairwise (le · ·) := by
  apply List.pairwise_of_forall_mem_list
  intro a ha b hb
  rw [le, group_of_mem_ofGroup ha, group_of_mem_ofGroup hb]
  exact decide_eq_true (Nat.le_refl _)

/-- **Sorting keeps the order within a group.** -/
theorem ofGroup_mergeSort
    (entries : List GroupedEntry)
    (group : EntryGroup) :
    ofGroup (entries.mergeSort le) group = ofGroup entries group := by
  have hsublist : (ofGroup entries group).Sublist (entries.mergeSort le) :=
    List.sublist_mergeSort le_trans le_total (pairwise_ofGroup entries group)
      List.filter_sublist
  have hfilter := hsublist.filter (·.group = group)
  have hperm := (List.mergeSort_perm entries le).filter (·.group = group)
  rw [← ofGroup, ← ofGroup, ofGroup_ofGroup, if_pos rfl] at hfilter
  exact (hfilter.eq_of_length hperm.length_eq.symm).symm

theorem rank_le_of_mem
    {first entry : GroupedEntry}
    {entries : List GroupedEntry}
    (hsorted : (first :: entries).Pairwise (le · ·))
    (h : entry ∈ first :: entries) :
    first.group.rank ≤ entry.group.rank := by
  rcases List.mem_cons.mp h with rfl | h
  · exact Nat.le_refl _
  · exact of_decide_eq_true (List.rel_of_pairwise_cons hsorted h)

theorem mem_of_ofGroup_eq
    {first second : List GroupedEntry}
    {entry : GroupedEntry}
    (h : ofGroup first entry.group = ofGroup second entry.group)
    (hentry : entry ∈ first) :
    entry ∈ second := by
  have hfirst : entry ∈ ofGroup first entry.group :=
    List.mem_filter.mpr ⟨hentry, decide_eq_true rfl⟩
  rw [h] at hfirst
  exact (List.mem_filter.mp hfirst).1

/-- Entries sorted by group are told by the entries of each group. -/
theorem eq_of_ofGroup_eq
    {first second : List GroupedEntry}
    (hfirst : first.Pairwise (le · ·))
    (hsecond : second.Pairwise (le · ·))
    (h : ∀ group, ofGroup first group = ofGroup second group) :
    first = second := by
  induction first generalizing second with
  | nil =>
      cases second with
      | nil => rfl
      | cons b second =>
          have hb := h b.group
          rw [ofGroup_cons, if_pos rfl] at hb
          cases hb
  | cons a first ih =>
      cases second with
      | nil =>
          have ha := h a.group
          rw [ofGroup_cons, if_pos rfl] at ha
          cases ha
      | cons b second =>
          -- both heads have the least rank, so they are the first of one group
          have hranks : a.group.rank = b.group.rank := by
            have ha : a ∈ b :: second := mem_of_ofGroup_eq (h a.group) List.mem_cons_self
            have hb : b ∈ a :: first := mem_of_ofGroup_eq (h b.group).symm List.mem_cons_self
            have hab := rank_le_of_mem hfirst hb
            have hba := rank_le_of_mem hsecond ha
            omega
          have hgroups := EntryGroup.rank_injective hranks
          have hheads := h a.group
          rw [ofGroup_cons, ofGroup_cons, if_pos rfl, if_pos hgroups.symm] at hheads
          obtain ⟨rfl, -⟩ := List.cons.inj hheads
          congr 1
          apply ih hfirst.of_cons hsecond.of_cons
          intro group
          have hgroup := h group
          rw [ofGroup_cons, ofGroup_cons] at hgroup
          split at hgroup
          · exact (List.cons.inj hgroup).2
          · exact hgroup

def byGroup (entries : List GroupedEntry) : List GroupedEntry :=
  EntryGroup.inOrder.flatMap (ofGroup entries)

theorem pairwise_byGroup
    (entries : List GroupedEntry) :
    (byGroup entries).Pairwise (le · ·) := by
  rw [byGroup, List.pairwise_flatMap]
  constructor
  · intro group _
    exact pairwise_ofGroup entries group
  · refine EntryGroup.pairwise_inOrder.imp fun hrank a ha b hb => ?_
    rw [le, group_of_mem_ofGroup ha, group_of_mem_ofGroup hb]
    exact decide_eq_true hrank

theorem ofGroup_byGroup
    (entries : List GroupedEntry)
    (group : EntryGroup) :
    ofGroup (byGroup entries) group = ofGroup entries group := by
  have hflat :
      ofGroup (byGroup entries) group =
        EntryGroup.inOrder.flatMap fun other => ofGroup (ofGroup entries other) group := by
    simp only [ofGroup, byGroup, List.filter_flatMap]
  rw [hflat]
  simp only [ofGroup_ofGroup]
  exact EntryGroup.flatMap_inOrder group (ofGroup entries group)

/-- **Sorting puts one group after the other.** -/
theorem mergeSort_eq_byGroup
    (entries : List GroupedEntry) :
    entries.mergeSort le = byGroup entries := by
  apply eq_of_ofGroup_eq
  · exact List.pairwise_mergeSort le_trans le_total entries
  · exact pairwise_byGroup entries
  · intro group
    rw [ofGroup_mergeSort, ofGroup_byGroup]

end GroupedEntry

namespace Assembled

theorem sortedEntries_eq
    (version : HostVersion)
    (rules : List Rule) :
    sortedEntries version rules =
      (GroupedEntry.byGroup (rules.filterMap (·.toEntry version))).map GroupedEntry.entry := by
  rw [← GroupedEntry.mergeSort_eq_byGroup]
  rfl

/-! ## Limits -/

/-- Limits that admit more. -/
instance : LE Limits :=
  ⟨fun a b => a.entries ≤ b.entries ∧ ∀ max ∈ b.bytes, ∃ max' ∈ a.bytes, max' ≤ max⟩

theorem Limits.Admits.of_le
    {limits wider : Limits}
    {entries : List Entry}
    (hle : limits ≤ wider)
    (h : limits.Admits entries) :
    wider.Admits entries := by
  constructor
  · exact Nat.le_trans h.1 hle.1
  · intro max hmax
    obtain ⟨max', hmax', hlt⟩ := hle.2 max hmax
    exact Nat.le_trans (h.2 max' hmax') hlt

theorem utf8ByteSize_text_le_concat
    (entries : List Entry)
    (entry : Entry) :
    (Ruleset.text entries).utf8ByteSize ≤ (Ruleset.text (entries ++ [entry])).utf8ByteSize := by
  have htext : Ruleset.text entries = Ruleset.openText entries ++ "]" := rfl
  have hbracket : "]".utf8ByteSize = 1 := rfl
  rw [← utf8ByteSize_text_concat, htext, String.utf8ByteSize_append, hbracket]
  omega

theorem Limits.Admits.of_concat
    {limits : Limits}
    {entries : List Entry}
    {entry : Entry}
    (h : limits.Admits (entries ++ [entry])) :
    limits.Admits entries := by
  constructor
  · exact Nat.le_trans (by simp) h.1
  · intro max hmax
    exact Nat.le_trans (utf8ByteSize_text_le_concat entries entry) (h.2 max hmax)

/-- **Limits that admit entries admit every prefix of them.** -/
theorem Limits.Admits.of_prefix
    {limits : Limits}
    {entries more : List Entry}
    (hmore : entries <+: more)
    (h : limits.Admits more) :
    limits.Admits entries := by
  obtain ⟨rest, rfl⟩ := hmore
  induction rest generalizing entries with
  | nil => simpa using h
  | cons entry rest ih =>
      rw [List.append_cons] at h
      exact (ih h).of_concat

/-- **Entries that the limits admit are all kept.** -/
theorem ofEntries_of_admits
    {limits : Limits}
    {entries : List Entry}
    (hne : entries ≠ [])
    (h : limits.Admits entries) :
    ofEntries limits entries =
      { json := Ruleset.text entries, entriesCount := entries.length, discardedCount := 0 } := by
  obtain ⟨k, hk, hassembled, -, hstop⟩ := ofEntries_eq limits entries
  have hall : k = entries.length := by
    by_contra hlt
    exact hstop (by omega) (h.of_prefix (List.take_prefix _ _))
  subst hall
  rw [hassembled, if_neg (mt List.length_eq_zero_iff.mp hne), List.take_length, Nat.sub_self]

/-! ## What is kept -/

/-- The numbers of entries that may be kept: none, or as many as the limits
admit. -/
def admissible (limits : Limits) (entries : List Entry) : Set Nat :=
  {k | k ≤ entries.length ∧ (k = 0 ∨ limits.Admits (entries.take k))}

/-- **The first entry that does not fit ends the longest prefix that fits.** -/
theorem isGreatest_admissible
    {limits : Limits}
    {entries : List Entry}
    {k : Nat}
    (hk : k ≤ entries.length)
    (hadmits : 0 < k → limits.Admits (entries.take k))
    (hstop : k < entries.length → ¬ limits.Admits (entries.take (k + 1))) :
    IsGreatest (admissible limits entries) k := by
  refine ⟨⟨hk, (Nat.eq_zero_or_pos k).imp_right hadmits⟩, ?_⟩
  rintro j ⟨hj, hj'⟩
  by_contra hlt
  have hadmits' := hj'.resolve_left (by omega)
  have hmore : entries.take (k + 1) <+: entries.take j :=
    List.take_prefix_take_left (by omega)
  exact hstop (by omega) (hadmits'.of_prefix hmore)

theorem admissible_subset
    {limits wider : Limits}
    (hle : limits ≤ wider)
    (entries : List Entry) :
    admissible limits entries ⊆ admissible wider entries := by
  rintro k ⟨hk, hk'⟩
  exact ⟨hk, hk'.imp_right (·.of_le hle)⟩

/-- **The ruleset of some rules is the longest prefix of their sorted entries
that the limits admit.**  Its text is that of the prefix, or the neutral ruleset
if the prefix is empty, and the other entries are counted as left out.  Wider
limits only extend the prefix. -/
theorem ofRules_longestPrefix
    (version : HostVersion)
    (limits : Limits)
    (rules : List Rule) :
    let entries :=
      (GroupedEntry.byGroup (rules.filterMap (·.toEntry version))).map GroupedEntry.entry
    (∃ k, IsGreatest (admissible limits entries) k ∧
      ofRules version limits rules =
        { json := if k = 0 then neutralRuleset else Ruleset.text (entries.take k)
          entriesCount := k
          discardedCount := entries.length - k }) ∧
    ∀ wider, limits ≤ wider →
      entries.take (ofRules version limits rules).entriesCount <+:
        entries.take (ofRules version wider rules).entriesCount := by
  intro entries
  have hkept (limits : Limits) :
      ∃ k, IsGreatest (admissible limits entries) k ∧
        ofRules version limits rules =
          { json := if k = 0 then neutralRuleset else Ruleset.text (entries.take k)
            entriesCount := k
            discardedCount := entries.length - k } := by
    obtain ⟨k, hk, hassembled, hadmits, hstop⟩ := ofEntries_eq limits entries
    refine ⟨k, isGreatest_admissible hk hadmits hstop, ?_⟩
    rw [ofRules, sortedEntries_eq, hassembled]
  refine ⟨hkept limits, ?_⟩
  intro wider hle
  obtain ⟨k, hgreatest, hassembled⟩ := hkept limits
  obtain ⟨k', hgreatest', hassembled'⟩ := hkept wider
  rw [hassembled, hassembled']
  apply List.take_prefix_take_left
  exact hgreatest'.2 (admissible_subset hle entries hgreatest.1)

end Assembled
end FilterCompiler
