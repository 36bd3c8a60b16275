import FilterCompiler.Text.Blank
import FilterCompiler.Text.Split

/-!
# Cuts of a text

What the cuts of a text say about it: a separator ends the pieces before it, a cut at
the first or the last occurrence of a character leaves none on one side, and a text
occurs in another one if it is an infix of it.  A character that is not in a text cannot
be in one of its occurrences, so it divides the places where the text may occur
(`occurs_append_cons`).
-/

namespace FilterCompiler
namespace Text

/-! ## Pieces -/

theorem consFirst_ne_nil
    (c : Char)
    (pieces : List (List Char)) :
    consFirst c pieces ≠ [] := by
  cases pieces <;> simp [consFirst]

theorem splitOn_ne_nil
    (sep : Char)
    (s : List Char) :
    splitOn sep s ≠ [] := by
  cases s with
  | nil => simp [splitOn]
  | cons c s =>
      rw [splitOn]
      split
      · simp
      · exact consFirst_ne_nil c _

theorem consFirst_append
    {c : Char}
    {pieces : List (List Char)}
    (h : pieces ≠ [])
    (more : List (List Char)) :
    consFirst c (pieces ++ more) = consFirst c pieces ++ more := by
  cases pieces with
  | nil => exact absurd rfl h
  | cons piece pieces => rfl

/-- **A separator ends the pieces before it.** -/
theorem splitOn_append_cons
    (sep : Char)
    (s t : List Char) :
    splitOn sep (s ++ sep :: t) = splitOn sep s ++ splitOn sep t := by
  induction s with
  | nil => simp [splitOn]
  | cons c s ih =>
      rw [List.cons_append, splitOn, splitOn, ih]
      split
      · rfl
      · exact consFirst_append (splitOn_ne_nil sep s) _

theorem splitOn_of_notMem
    {sep : Char}
    {s : List Char}
    (h : sep ∉ s) :
    splitOn sep s = [s] := by
  induction s with
  | nil => rfl
  | cons c s ih =>
      rw [List.mem_cons, not_or] at h
      rw [splitOn, if_neg (Ne.symm h.1), ih h.2]
      rfl

theorem mem_of_mem_splitOn
    {sep : Char}
    {s piece : List Char}
    (hpiece : piece ∈ splitOn sep s)
    {c : Char}
    (hc : c ∈ piece) :
    c ∈ s := by
  induction s generalizing piece with
  | nil => simp_all [splitOn]
  | cons d s ih =>
      rw [splitOn] at hpiece
      split at hpiece
      · rcases List.mem_cons.mp hpiece with rfl | hpiece
        · cases hc
        · exact List.mem_cons_of_mem d (ih hpiece hc)
      · cases hpieces : splitOn sep s with
        | nil => exact absurd hpieces (splitOn_ne_nil sep s)
        | cons first pieces =>
            rw [hpieces, consFirst] at hpiece
            rcases List.mem_cons.mp hpiece with rfl | hpiece
            · refine (List.mem_cons.mp hc).elim (fun hd => hd ▸ List.mem_cons_self) fun hc => ?_
              exact List.mem_cons_of_mem d (ih (hpieces ▸ List.mem_cons_self) hc)
            · exact List.mem_cons_of_mem d
                (ih (hpieces ▸ List.mem_cons_of_mem first hpiece) hc)

/-- An ending without separator is the end of the last piece. -/
theorem exists_splitOn_append
    {sep : Char}
    {t : List Char}
    (h : sep ∉ t)
    (s : List Char) :
    ∃ pieces last, splitOn sep (s ++ t) = pieces ++ [last ++ t] := by
  induction s with
  | nil => exact ⟨[], [], splitOn_of_notMem h⟩
  | cons c s ih =>
      obtain ⟨pieces, last, hpieces⟩ := ih
      rw [List.cons_append, splitOn, hpieces]
      by_cases hc : c = sep
      · exact ⟨[] :: pieces, last, by rw [if_pos hc]; rfl⟩
      · rw [if_neg hc]
        cases pieces with
        | nil => exact ⟨[], c :: last, rfl⟩
        | cons piece pieces => exact ⟨(c :: piece) :: pieces, last, rfl⟩

/-- The pieces of two texts in a row: the last of the first and the first of the second
one come together. -/
theorem exists_splitOn_append_eq
    (sep : Char)
    (s t : List Char) :
    ∃ init last first rest,
      splitOn sep t = first :: rest ∧ splitOn sep (s ++ t) = init ++ (last ++ first) :: rest := by
  obtain ⟨first, rest, ht⟩ := List.exists_cons_of_ne_nil (splitOn_ne_nil sep t)
  induction s with
  | nil => exact ⟨[], [], first, rest, ht, ht⟩
  | cons c s ih =>
      obtain ⟨init, last, first, rest, ht, hst⟩ := ih
      rw [List.cons_append, splitOn, hst]
      by_cases hc : c = sep
      · exact ⟨[] :: init, last, first, rest, ht, by rw [if_pos hc]; rfl⟩
      · rw [if_neg hc]
        cases init with
        | nil => exact ⟨[], c :: last, first, rest, ht, rfl⟩
        | cons piece init => exact ⟨(c :: piece) :: init, last, first, rest, ht, rfl⟩

/-- The pieces of an end of a text are pieces of the text, but for the first one, which has
something in front of it. -/
theorem mem_splitOn_append_cons
    {c sep : Char}
    (hc : c ≠ sep)
    {t piece : List Char}
    (hpiece : piece ∈ splitOn sep t)
    (s : List Char) :
    piece ∈ splitOn sep (s ++ c :: t) ∨ ∃ last, last ++ c :: piece ∈ splitOn sep (s ++ c :: t) := by
  obtain ⟨init, last, first, rest, hsplit, happend⟩ := exists_splitOn_append_eq sep s (c :: t)
  obtain ⟨first', rest', ht⟩ := List.exists_cons_of_ne_nil (splitOn_ne_nil sep t)
  rw [splitOn, if_neg hc, ht, consFirst] at hsplit
  obtain ⟨rfl, rfl⟩ := List.cons.inj hsplit
  rw [happend]
  rw [ht] at hpiece
  rcases List.mem_cons.mp hpiece with rfl | hrest
  · exact .inr ⟨last, by simp⟩
  · exact .inl (List.mem_append_right _ (List.mem_cons_of_mem _ hrest))

theorem joinWith_cons_cons
    (sep piece piece' : List Char)
    (pieces : List (List Char)) :
    joinWith sep (piece :: piece' :: pieces) = piece ++ sep ++ joinWith sep (piece' :: pieces) := by
  rfl

theorem joinWith_concat
    {sep : List Char}
    {pieces : List (List Char)}
    (hne : pieces ≠ [])
    (piece : List Char) :
    joinWith sep (pieces ++ [piece]) = joinWith sep pieces ++ sep ++ piece := by
  induction pieces with
  | nil => exact absurd rfl hne
  | cons first pieces ih =>
      cases pieces with
      | nil => rfl
      | cons first' pieces =>
          rw [List.cons_append, List.cons_append, joinWith_cons_cons, ← List.cons_append,
            ih (List.cons_ne_nil _ _), joinWith_cons_cons]
          simp only [List.append_assoc]

theorem joinWith_eq_intercalate
    (sep : List Char)
    (pieces : List (List Char)) :
    joinWith sep pieces = sep.intercalate pieces := by
  induction pieces with
  | nil => rfl
  | cons piece pieces ih =>
      cases pieces with
      | nil => simp [joinWith]
      | cons piece' pieces => rw [joinWith_cons_cons, ih, List.intercalate_cons_cons]

/-- What holds of the separator and of the pieces holds of the row. -/
theorem forall_mem_joinWith
    {p : Char → Prop}
    {sep : List Char}
    {pieces : List (List Char)}
    (hsep : ∀ c ∈ sep, p c)
    (h : ∀ piece ∈ pieces, ∀ c ∈ piece, p c) :
    ∀ c ∈ joinWith sep pieces, p c := by
  induction pieces with
  | nil => exact List.forall_mem_nil _
  | cons piece pieces ih =>
      rw [List.forall_mem_cons] at h
      cases pieces with
      | nil => exact h.1
      | cons piece' pieces =>
          rw [joinWith_cons_cons, List.forall_mem_append, List.forall_mem_append]
          exact ⟨⟨h.1, hsep⟩, ih h.2⟩

/-- The first character of a row is that of its first piece. -/
theorem exists_head?_joinWith
    {p : Char → Prop}
    {sep : List Char}
    {pieces : List (List Char)}
    (hne : pieces ≠ [])
    (h : ∀ piece ∈ pieces, ∃ c, piece.head? = some c ∧ p c) :
    ∃ c, (joinWith sep pieces).head? = some c ∧ p c := by
  obtain ⟨piece, pieces, rfl⟩ := List.exists_cons_of_ne_nil hne
  obtain ⟨c, hc, hp⟩ := h piece List.mem_cons_self
  refine ⟨c, ?_, hp⟩
  cases pieces with
  | nil => exact hc
  | cons piece' pieces =>
      rw [joinWith_cons_cons, List.append_assoc, List.head?_append, hc, Option.some_or]

theorem head?_joinWith_ne
    {c sep : Char}
    (hc : sep ≠ c)
    {pieces : List (List Char)}
    (h : ∀ piece ∈ pieces, piece.head? ≠ some c) :
    (joinWith [sep] pieces).head? ≠ some c := by
  cases pieces with
  | nil => simp [joinWith]
  | cons piece pieces =>
      have hpiece := h piece List.mem_cons_self
      cases pieces with
      | nil => exact hpiece
      | cons piece' pieces =>
          rw [joinWith_cons_cons, List.append_assoc, List.head?_append]
          cases hhead : piece.head? with
          | none => simpa using hc
          | some d => rwa [Option.some_or, ← hhead]

theorem getLast?_joinWith_ne
    {c sep : Char}
    (hc : sep ≠ c)
    {pieces : List (List Char)}
    (h : ∀ piece ∈ pieces, piece.getLast? ≠ some c) :
    (joinWith [sep] pieces).getLast? ≠ some c := by
  induction pieces with
  | nil => simp [joinWith]
  | cons piece pieces ih =>
      rw [List.forall_mem_cons] at h
      cases pieces with
      | nil => exact h.1
      | cons piece' pieces =>
          rw [joinWith_cons_cons, List.getLast?_append]
          cases hlast : (joinWith [sep] (piece' :: pieces)).getLast? with
          | none => simpa using hc
          | some d =>
              rw [Option.some_or, ← hlast]
              exact ih h.2

/-- The pieces in a row with the separator between them are the text. -/
theorem joinWith_splitOn
    (sep : Char)
    (s : List Char) :
    joinWith [sep] (splitOn sep s) = s := by
  induction s with
  | nil => rfl
  | cons c s ih =>
      rw [splitOn]
      split
      · next hc =>
          subst hc
          cases hpieces : splitOn c s with
          | nil => exact absurd hpieces (splitOn_ne_nil c s)
          | cons piece pieces =>
              rw [joinWith_cons_cons, ← hpieces, ih]
              rfl
      · cases hpieces : splitOn sep s with
        | nil => exact absurd hpieces (splitOn_ne_nil sep s)
        | cons piece pieces =>
            rw [hpieces] at ih
            rw [← ih]
            cases pieces <;> rfl

/-- **Pieces without the separator are cut apart again.** -/
theorem splitOn_joinWith
    {sep : Char}
    {pieces : List (List Char)}
    (hne : pieces ≠ [])
    (h : ∀ piece ∈ pieces, sep ∉ piece) :
    splitOn sep (joinWith [sep] pieces) = pieces := by
  induction pieces with
  | nil => exact absurd rfl hne
  | cons piece pieces ih =>
      rw [List.forall_mem_cons] at h
      cases pieces with
      | nil => exact splitOn_of_notMem h.1
      | cons piece' pieces =>
          rw [joinWith_cons_cons, List.append_assoc, List.singleton_append, splitOn_append_cons,
            splitOn_of_notMem h.1, ih (List.cons_ne_nil _ _) h.2]
          rfl

theorem splitOnPair_ne_nil
    (a b : Char)
    (s : List Char) :
    splitOnPair a b s ≠ [] := by
  fun_induction splitOnPair a b s with
  | case1 | case2 | case3 => exact List.cons_ne_nil _ _
  | case4 c d s hcd ih => exact consFirst_ne_nil c _

theorem splitOnPair_of_notMem
    {a b : Char}
    {s : List Char}
    (h : a ∉ s) :
    splitOnPair a b s = [s] := by
  fun_induction splitOnPair a b s with
  | case1 => rfl
  | case2 c => rfl
  | case3 c d s hcd ih => exact absurd hcd.1 (Ne.symm (List.ne_of_not_mem_cons h))
  | case4 c d s hcd ih => rw [ih (List.not_mem_of_not_mem_cons h), consFirst]

theorem splitOnPair_append_cons
    {a : Char}
    {s : List Char}
    (h : a ∉ s)
    (b : Char)
    (t : List Char) :
    splitOnPair a b (s ++ a :: b :: t) = s :: splitOnPair a b t := by
  induction s with
  | nil => rw [List.nil_append, splitOnPair, if_pos ⟨rfl, rfl⟩]
  | cons c s ih =>
      have hc : c ≠ a := Ne.symm (List.ne_of_not_mem_cons h)
      obtain ⟨d, rest, hrest⟩ :=
        List.exists_cons_of_ne_nil
          (List.append_ne_nil_of_right_ne_nil s (List.cons_ne_nil a (b :: t)))
      rw [List.cons_append, hrest, splitOnPair, if_neg fun hpair => hc hpair.1, ← hrest,
        ih (List.not_mem_of_not_mem_cons h), consFirst]

/-- **Pieces without the first of two separating characters are cut apart again.** -/
theorem splitOnPair_joinWith
    {a : Char}
    {pieces : List (List Char)}
    (hne : pieces ≠ [])
    (h : ∀ piece ∈ pieces, a ∉ piece)
    (b : Char) :
    splitOnPair a b (joinWith [a, b] pieces) = pieces := by
  induction pieces with
  | nil => exact absurd rfl hne
  | cons piece pieces ih =>
      rw [List.forall_mem_cons] at h
      cases pieces with
      | nil => exact splitOnPair_of_notMem h.1
      | cons piece' pieces =>
          rw [joinWith_cons_cons, List.append_assoc]
          exact (splitOnPair_append_cons h.1 b _).trans
            (congrArg _ (ih (List.cons_ne_nil _ _) h.2))

/-! ## Pieces between separators without a backslash -/

theorem splitEscaped_ne_nil
    (sep : Char)
    (s : List Char) :
    splitEscaped sep s ≠ [] := by
  fun_cases splitEscaped sep s
  · simp
  · simp
  · simp
  · exact consFirst_ne_nil _ _
  · simp
  · exact consFirst_ne_nil _ _

/-- Where no backslash ends a piece a text is cut at every separator. -/
theorem splitEscaped_eq_splitOn
    {sep : Char}
    (hsep : sep ≠ '\\')
    {s : List Char}
    (h : ∀ piece ∈ splitOn sep s, piece.getLast? ≠ some '\\') :
    splitEscaped sep s = splitOn sep s := by
  fun_induction splitEscaped sep s with
  | case1 => rfl
  | case2 => simp [splitOn]
  | case3 c hc => simp [splitOn, hc, consFirst]
  | case4 c d s hcd ih =>
      obtain ⟨rfl, rfl⟩ := hcd
      rw [splitOn, if_neg hsep.symm, splitOn, if_pos rfl] at h
      exact absurd rfl (h ['\\'] List.mem_cons_self)
  | case5 d s hd ih =>
      rw [splitOn, if_pos rfl] at h ⊢
      rw [ih fun piece hpiece => h piece (List.mem_cons_of_mem _ hpiece)]
  | case6 c d s hcd hc ih =>
      rw [splitOn.eq_2, if_neg hc] at h ⊢
      rw [ih]
      obtain ⟨first, rest, hpieces⟩ := List.exists_cons_of_ne_nil (splitOn_ne_nil sep (d :: s))
      rw [hpieces, consFirst, List.forall_mem_cons] at h
      rw [hpieces, List.forall_mem_cons]
      refine ⟨fun hlast => h.1 ?_, h.2⟩
      rw [List.getLast?_cons, hlast]
      rfl

theorem splitEscaped_sep_cons
    {sep : Char}
    (hsep : sep ≠ '\\')
    (s : List Char) :
    splitEscaped sep (sep :: s) = [] :: splitEscaped sep s := by
  cases s with
  | nil => simp [splitEscaped]
  | cons d s => rw [splitEscaped, if_neg fun hpair => hsep hpair.1, if_pos rfl]

theorem splitEscaped_escaped_cons
    (sep : Char)
    (s : List Char) :
    splitEscaped sep ('\\' :: sep :: s) = consFirst sep (splitEscaped sep s) := by
  rw [splitEscaped, if_pos ⟨rfl, rfl⟩]

/-- Any other character stands for itself, a backslash too unless the separator is next. -/
theorem splitEscaped_cons_of_ne
    {sep c : Char}
    (hc : c ≠ sep)
    {s : List Char}
    (hnext : c = '\\' → s.head? ≠ some sep) :
    splitEscaped sep (c :: s) = consFirst c (splitEscaped sep s) := by
  cases s with
  | nil => simp [splitEscaped, hc, consFirst]
  | cons d s =>
      rw [splitEscaped, if_neg fun hpair => hnext hpair.1 (congrArg some hpair.2), if_neg hc]

/-- A text without separators and backslashes belongs to the first piece of what follows. -/
theorem splitEscaped_append_of_notMem
    {sep : Char}
    {s : List Char}
    (hsep : sep ∉ s)
    (hbackslash : '\\' ∉ s)
    {t piece : List Char}
    {pieces : List (List Char)}
    (h : splitEscaped sep t = piece :: pieces) :
    splitEscaped sep (s ++ t) = (s ++ piece) :: pieces := by
  induction s with
  | nil => exact h
  | cons c s ih =>
      have hc : c ≠ sep := Ne.symm (List.ne_of_not_mem_cons hsep)
      have hescape : c ≠ '\\' := Ne.symm (List.ne_of_not_mem_cons hbackslash)
      rw [List.cons_append, splitEscaped_cons_of_ne hc fun heq => absurd heq hescape,
        ih (List.not_mem_of_not_mem_cons hsep) (List.not_mem_of_not_mem_cons hbackslash),
        consFirst, List.cons_append]

/-- A text without separators and backslashes is one piece. -/
theorem splitEscaped_of_notMem
    {sep : Char}
    {s : List Char}
    (hsep : sep ∉ s)
    (hbackslash : '\\' ∉ s) :
    splitEscaped sep s = [s] := by
  have hsplit := splitEscaped_append_of_notMem hsep hbackslash (splitEscaped.eq_1 sep)
  rwa [List.append_nil] at hsplit

/-- What is not cut apart has no separator. -/
theorem notMem_of_length_splitOn
    {sep : Char}
    {s : List Char}
    (h : (splitOn sep s).length = 1) :
    sep ∉ s := by
  intro hsep
  obtain ⟨first, rest, rfl, -⟩ := List.eq_append_cons_of_mem hsep
  have hfirst := List.length_pos_iff.mpr (splitOn_ne_nil sep first)
  have hrest := List.length_pos_iff.mpr (splitOn_ne_nil sep rest)
  rw [splitOn_append_cons, List.length_append] at h
  omega

/-- **A separator that no backslash precedes ends the pieces before it.** -/
theorem splitEscaped_append_cons
    {sep : Char}
    (hsep : sep ≠ '\\')
    {s : List Char}
    (h : s.getLast? ≠ some '\\')
    (t : List Char) :
    splitEscaped sep (s ++ sep :: t) = splitEscaped sep s ++ splitEscaped sep t := by
  fun_induction splitEscaped sep s with
  | case1 => exact splitEscaped_sep_cons hsep t
  | case2 =>
      rw [List.singleton_append, splitEscaped_sep_cons hsep, splitEscaped_sep_cons hsep]
      rfl
  | case3 c hc =>
      have hescape : c ≠ '\\' := fun hc => h (hc ▸ rfl)
      rw [List.singleton_append, splitEscaped_cons_of_ne hc fun heq => absurd heq hescape,
        splitEscaped_sep_cons hsep]
      rfl
  | case4 c d s hcd ih =>
      have hs : s.getLast? ≠ some '\\' := by
        cases s with
        | nil => simp
        | cons e s => simpa [List.getLast?_cons_cons] using h
      rw [List.cons_append, List.cons_append, splitEscaped, if_pos hcd, ih hs,
        consFirst_append (splitEscaped_ne_nil sep s)]
  | case5 d s hd ih =>
      rw [List.getLast?_cons_cons] at h
      rw [List.cons_append, splitEscaped_sep_cons hsep, ih h]
      rfl
  | case6 c d s hcd hc ih =>
      rw [List.getLast?_cons_cons] at h
      rw [List.cons_append, List.cons_append, splitEscaped, if_neg hcd, if_neg hc,
        ← List.cons_append, ih h, consFirst_append (splitEscaped_ne_nil sep _)]

/-! ## The first and the last occurrence of a character -/

theorem notMem_of_breakAt?_eq_some
    {c : Char}
    {s label rest : List Char}
    (h : breakAt? c s = some (label, rest)) :
    c ∉ label := by
  induction s generalizing label with
  | nil => cases h
  | cons d s ih =>
      simp only [breakAt?] at h
      split at h
      · cases h
        exact List.not_mem_nil
      · next hd =>
          obtain ⟨⟨label', rest'⟩, hbreak, hpair⟩ := Option.map_eq_some_iff.mp h
          cases hpair
          simp [Ne.symm hd, ih hbreak]

theorem notMem_of_breakAt?_eq_none
    {c : Char}
    {s : List Char}
    (h : breakAt? c s = none) :
    c ∉ s := by
  induction s with
  | nil => exact List.not_mem_nil
  | cons d s ih =>
      simp only [breakAt?] at h
      split at h
      · cases h
      · next hd => simp [Ne.symm hd, ih (Option.map_eq_none_iff.mp h)]

theorem breakAt?_append_of_notMem
    {c : Char}
    {s : List Char}
    (h : c ∉ s)
    (t : List Char) :
    breakAt? c (s ++ t) = (breakAt? c t).map fun p => (s ++ p.1, p.2) := by
  induction s with
  | nil => simp
  | cons d s ih =>
      rw [List.mem_cons, not_or] at h
      rw [List.cons_append, breakAt?, if_neg (Ne.symm h.1), ih h.2, Option.map_map]
      rfl

theorem breakAt?_append_cons
    {c : Char}
    {s : List Char}
    (h : c ∉ s)
    (t : List Char) :
    breakAt? c (s ++ c :: t) = some (s, t) := by
  rw [breakAt?_append_of_notMem h, breakAt?, if_pos rfl]
  simp

/-- What comes before the first mark, the mark and what follows it can be told. -/
theorem append_cons_inj
    {α : Type}
    (isMark : α → Prop)
    {before before' after after' : List α}
    {mark mark' : α}
    (hbefore : ∀ a ∈ before, ¬ isMark a)
    (hbefore' : ∀ a ∈ before', ¬ isMark a)
    (hmark : isMark mark)
    (hmark' : isMark mark')
    (h : before ++ mark :: after = before' ++ mark' :: after') :
    before = before' ∧ mark = mark' ∧ after = after' := by
  induction before generalizing before' with
  | nil =>
      cases before' with
      | nil => simpa using h
      | cons a before' =>
          rw [List.forall_mem_cons] at hbefore'
          obtain ⟨rfl, -⟩ := List.cons.inj h
          exact absurd hmark hbefore'.1
  | cons a before ih =>
      rw [List.forall_mem_cons] at hbefore
      cases before' with
      | nil =>
          obtain ⟨rfl, -⟩ := List.cons.inj h
          exact absurd hmark' hbefore.1
      | cons a' before' =>
          rw [List.forall_mem_cons] at hbefore'
          obtain ⟨rfl, htail⟩ := List.cons.inj h
          obtain ⟨rfl, hrest⟩ := ih hbefore.2 hbefore'.2 htail
          exact ⟨rfl, hrest⟩

theorem notMem_of_breakAtLast?_eq_none
    {c : Char}
    {s : List Char}
    (h : breakAtLast? c s = none) :
    c ∉ s := by
  induction s with
  | nil => simp
  | cons d s ih =>
      rw [breakAtLast?] at h
      split at h
      · cases h
      · next hnone =>
          split at h
          · cases h
          · next hne =>
              rw [List.mem_cons, not_or]
              exact ⟨Ne.symm hne, ih hnone⟩

theorem notMem_of_breakAtLast?_eq_some
    {c : Char}
    {s : List Char}
    {p : List Char × List Char}
    (h : breakAtLast? c s = some p) :
    c ∉ p.2 := by
  induction s generalizing p with
  | nil => cases h
  | cons d s ih =>
      rw [breakAtLast?] at h
      split at h
      · next q hq =>
          cases h
          have hnot := ih hq
          exact hnot
      · next hnone =>
          split at h
          · cases h
            exact notMem_of_breakAtLast?_eq_none hnone
          · cases h

theorem breakAtLast?_of_notMem
    {c : Char}
    {s : List Char}
    (h : c ∉ s) :
    breakAtLast? c s = none := by
  induction s with
  | nil => rfl
  | cons d s ih =>
      rw [List.mem_cons, not_or] at h
      rw [breakAtLast?, ih h.2]
      exact if_neg (Ne.symm h.1)

theorem breakAtLast?_append_of_notMem
    {c : Char}
    {t : List Char}
    (h : c ∉ t)
    (s : List Char) :
    breakAtLast? c (s ++ t) = (breakAtLast? c s).map fun p => (p.1, p.2 ++ t) := by
  induction s with
  | nil => exact breakAtLast?_of_notMem h
  | cons d s ih =>
      rw [List.cons_append, breakAtLast?, breakAtLast?, ih]
      cases breakAtLast? c s with
      | some p => rfl
      | none =>
          by_cases hd : d = c
          · simp [hd]
          · simp [hd]

/-- A character of a text has a last occurrence. -/
theorem exists_eq_append_cons_last
    {c : Char}
    {s : List Char}
    (h : c ∈ s) :
    ∃ before after, s = before ++ c :: after ∧ c ∉ after := by
  cases hbreak : breakAtLast? c s with
  | none => exact absurd h (notMem_of_breakAtLast?_eq_none hbreak)
  | some p =>
      exact ⟨p.1, p.2, breakAtLast?_eq_some hbreak, notMem_of_breakAtLast?_eq_some hbreak⟩

theorem breakAtLast?_append_cons
    {c : Char}
    {t : List Char}
    (h : c ∉ t)
    (s : List Char) :
    breakAtLast? c (s ++ c :: t) = some (s, t) := by
  induction s with
  | nil =>
      rw [List.nil_append, breakAtLast?, breakAtLast?_of_notMem h]
      exact if_pos rfl
  | cons d s ih => rw [List.cons_append, breakAtLast?, ih]

/-! ## Occurrences of a text -/

theorem beginsWith_iff
    {lead s : List Char} :
    beginsWith lead s ↔ lead <+: s := by
  rw [beginsWith, Option.isSome_iff_exists]
  simp only [dropLead?_eq_some_iff]
  exact exists_congr fun _ => eq_comm

theorem breakOn?_eq_none_iff
    {needle s : List Char} :
    breakOn? needle s = none ↔ ¬ needle <:+: s := by
  induction s with
  | nil => cases needle <;> simp [breakOn?, dropLead?]
  | cons c s ih =>
      have hprefix := @beginsWith_iff needle (c :: s)
      rw [breakOn?, List.infix_cons_iff, ← hprefix, beginsWith]
      split
      · next hlead => simp [hlead]
      · next hlead => simp [hlead, ih]

theorem occurs_iff
    {needle s : List Char} :
    occurs needle s ↔ needle <:+: s := by
  rw [occurs, ← Option.ne_none_iff_isSome, Ne, breakOn?_eq_none_iff, Decidable.not_not]

theorem byteLength_le_of_occurs
    {needle s : List Char}
    (h : occurs needle s) :
    byteLength needle ≤ byteLength s := by
  obtain ⟨before, after, rfl⟩ := occurs_iff.mp h
  rw [byteLength_append, byteLength_append]
  omega

/-- The first occurrence of a text is the one in front, if there is one. -/
theorem breakOn?_append
    {needle : List Char}
    (h : needle ≠ [])
    (s : List Char) :
    breakOn? needle (needle ++ s) = some ([], s) := by
  obtain ⟨c, needle, rfl⟩ := List.exists_cons_of_ne_nil h
  have hlead : dropLead? (c :: needle) (c :: needle ++ s) = some s :=
    dropLead?_eq_some_iff.mpr rfl
  rw [List.cons_append, breakOn?, ← List.cons_append, hlead]

/-- A text that is put in front is left out again. -/
theorem removeFirst_append
    {needle : List Char}
    (h : needle ≠ [])
    (s : List Char) :
    removeFirst needle (needle ++ s) = s := by
  rw [removeFirst, breakOn?_append h]
  rfl

theorem isPrefix_append_cons
    {needle : List Char}
    {c : Char}
    (h : c ∉ needle)
    (s t : List Char) :
    needle <+: s ++ c :: t ↔ needle <+: s := by
  refine ⟨fun hlead => ?_, fun hlead => hlead.trans (List.prefix_append s _)⟩
  induction s generalizing needle with
  | nil =>
      cases needle with
      | nil => exact List.nil_prefix
      | cons d needle =>
          obtain ⟨rfl, -⟩ := List.cons_prefix_cons.mp hlead
          exact absurd List.mem_cons_self h
  | cons e s ih =>
      cases needle with
      | nil => exact List.nil_prefix
      | cons d needle =>
          obtain ⟨rfl, htail⟩ := List.cons_prefix_cons.mp hlead
          exact List.cons_prefix_cons.mpr ⟨rfl, ih (mt (List.mem_cons_of_mem d) h) htail⟩

/-- A text is first found behind another one in which it does not occur, if a character
that it does not have stands between. -/
theorem breakOn?_append_cons
    {needle : List Char}
    {c : Char}
    (h : c ∉ needle)
    {s : List Char}
    (hs : ¬ needle <:+: s)
    (t : List Char) :
    breakOn? needle (s ++ c :: t) = (breakOn? needle t).map fun p => (s ++ c :: p.1, p.2) := by
  have hlead : ∀ s, ¬ needle <:+: s → dropLead? needle (s ++ c :: t) = none := by
    intro s hs
    rw [← Option.not_isSome_iff_eq_none]
    exact fun hbegins => hs ((isPrefix_append_cons h s t).mp (beginsWith_iff.mp hbegins)).isInfix
  induction s with
  | nil =>
      have hnone := hlead [] hs
      rw [List.nil_append] at hnone ⊢
      rw [breakOn?, hnone]
      rfl
  | cons d s ih =>
      have hnone := hlead (d :: s) hs
      rw [List.cons_append] at hnone ⊢
      rw [breakOn?, hnone, ih (mt List.infix_cons hs)]
      simp only [Option.map_map]
      rfl

/-- **A character that a text does not have divides its occurrences.** -/
theorem occurs_append_cons
    {needle : List Char}
    {c : Char}
    (h : c ∉ needle)
    (s t : List Char) :
    occurs needle (s ++ c :: t) ↔ occurs needle s ∨ occurs needle t := by
  simp only [occurs_iff]
  induction s with
  | nil =>
      rw [List.nil_append, List.infix_cons_iff, List.infix_nil, ← List.prefix_nil]
      exact or_congr_left (isPrefix_append_cons h [] t)
  | cons d s ih =>
      rw [List.cons_append, List.infix_cons_iff, List.infix_cons_iff, ih, or_assoc,
        ← List.cons_append, isPrefix_append_cons h]

/-- A text that begins with a character that another one does not have divides its
occurrences. -/
theorem occurs_append_of_head?
    {needle : List Char}
    (hneedle : needle ≠ [])
    {c : Char}
    (hc : c ∉ needle)
    {t : List Char}
    (ht : t.head? = some c)
    (s : List Char) :
    occurs needle (s ++ t) ↔ occurs needle s ∨ occurs needle t := by
  obtain ⟨t, rfl⟩ := List.head?_eq_some_iff.mp ht
  have hnil : ¬ occurs needle [] := by
    rw [occurs_iff, List.infix_nil]
    exact hneedle
  have htail := occurs_append_cons hc [] t
  rw [List.nil_append, or_iff_right hnil] at htail
  rw [occurs_append_cons hc, htail]

/-- What the separator is not in occurs in a row of pieces if it does in one of them. -/
theorem occurs_joinWith
    {needle : List Char}
    {sep : Char}
    (hsep : sep ∉ needle)
    (hneedle : needle ≠ [])
    (pieces : List (List Char)) :
    occurs needle (joinWith [sep] pieces) ↔ ∃ piece ∈ pieces, occurs needle piece := by
  induction pieces with
  | nil => simp [joinWith, occurs_iff, hneedle]
  | cons piece pieces ih =>
      cases pieces with
      | nil => simp [joinWith]
      | cons piece' pieces =>
          rw [joinWith_cons_cons, List.append_assoc, List.singleton_append,
            occurs_append_cons hsep, ih]
          simp only [List.mem_cons, or_and_right, exists_or, exists_eq_left]

/-- Leaving out pieces brings nothing in that the separator is not in. -/
theorem occurs_of_occurs_joinWith_filter
    {needle : List Char}
    {sep : Char}
    (hsep : sep ∉ needle)
    (hneedle : needle ≠ [])
    {p : List Char → Bool}
    {s : List Char}
    (h : occurs needle (joinWith [sep] ((splitOn sep s).filter p))) :
    occurs needle s := by
  obtain ⟨piece, hpiece, hoccurs⟩ := (occurs_joinWith hsep hneedle _).mp h
  rw [← joinWith_splitOn sep s, occurs_joinWith hsep hneedle]
  exact ⟨piece, (List.mem_filter.mp hpiece).1, hoccurs⟩

/-- What does not occur in a text is in none of its pieces. -/
theorem find?_occurs_splitOn_eq_none
    {needle : List Char}
    {sep : Char}
    (hsep : sep ∉ needle)
    (hneedle : needle ≠ [])
    {s : List Char}
    (h : ¬ occurs needle s) :
    (splitOn sep s).find? (occurs needle ·) = none := by
  rw [← joinWith_splitOn sep s, occurs_joinWith hsep hneedle] at h
  rw [List.find?_eq_none]
  exact fun piece hpiece hoccurs => h ⟨piece, hpiece, hoccurs⟩

theorem isPrefix_concat_append_cons
    {needle : List Char}
    {c : Char}
    (h : c ∉ needle)
    (s t : List Char) :
    needle ++ [c] <+: s ++ c :: t ↔ needle ++ [c] <+: s ++ [c] := by
  refine ⟨fun hlead => ?_, fun hlead => hlead.trans ⟨t, by simp⟩⟩
  induction s generalizing needle with
  | nil =>
      cases needle with
      | nil => exact List.prefix_refl _
      | cons d needle =>
          obtain ⟨rfl, -⟩ := List.cons_prefix_cons.mp hlead
          exact absurd List.mem_cons_self h
  | cons e s ih =>
      cases needle with
      | nil =>
          obtain ⟨rfl, -⟩ := List.cons_prefix_cons.mp hlead
          exact List.cons_prefix_cons.mpr ⟨rfl, List.nil_prefix⟩
      | cons d needle =>
          obtain ⟨rfl, htail⟩ := List.cons_prefix_cons.mp hlead
          exact List.cons_prefix_cons.mpr ⟨rfl, ih (List.not_mem_of_not_mem_cons h) htail⟩

/-- **A character that a text has at its end only divides its occurrences.** -/
theorem occurs_concat_append_cons
    {needle : List Char}
    {c : Char}
    (h : c ∉ needle)
    (s t : List Char) :
    occurs (needle ++ [c]) (s ++ c :: t) ↔
      occurs (needle ++ [c]) (s ++ [c]) ∨ occurs (needle ++ [c]) t := by
  simp only [occurs_iff]
  induction s with
  | nil =>
      have hprefix := isPrefix_concat_append_cons h [] t
      rw [List.nil_append, List.nil_append] at hprefix
      rw [List.nil_append, List.nil_append, List.infix_cons_iff, List.infix_cons_iff, hprefix]
      simp
  | cons d s ih =>
      rw [List.cons_append, List.infix_cons_iff, ih, @List.cons_append _ d s [c],
        List.infix_cons_iff, or_assoc, ← List.cons_append, ← List.cons_append,
        isPrefix_concat_append_cons h]

/-! ## Blanks at the ends -/

theorem dropWhile_eq_self_of_head?
    {α : Type}
    {p : α → Bool}
    {s : List α}
    (h : ∀ a ∈ s.head?, p a = false) :
    s.dropWhile p = s := by
  cases s with
  | nil => rfl
  | cons a s => exact List.dropWhile_cons_of_neg (Bool.not_eq_true _ ▸ h a rfl)

/-- A text without blanks at its ends is trimmed already. -/
theorem trim_eq_self
    {s : List Char}
    (hhead : ∀ c ∈ s.head?, isBlank c = false)
    (hlast : ∀ c ∈ s.getLast?, isBlank c = false) :
    trim s = s := by
  rw [trim, dropWhile_eq_self_of_head? hhead, trimEnd, dropWhile_eq_self_of_head?,
    List.reverse_reverse]
  rwa [List.head?_reverse]

end Text
end FilterCompiler
