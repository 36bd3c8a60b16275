import FilterCompiler.Proofs.Text
import FilterCompiler.Rule.Network

/-!
# The parts of a network line

A network line is cut at the rightmost `$` that may introduce options: no backslash stands
in front of it and no slash behind it.  Between the cut and the end of the line there is
no such `$` (`cutOptions?_eq_some_iff`).
-/

namespace FilterCompiler

/-! ## The cut -/

theorem cutOptions?_cons_eq_none_iff
    {before : Option Char}
    {c : Char}
    {s : List Char} :
    cutOptions? before (c :: s) = none ↔
      cutOptions? (some c) s = none ∧
        (c = '$' → before = some '\\' ∨ s.head? = some '/') := by
  rw [cutOptions?]
  cases hcut : cutOptions? (some c) s with
  | some p => simp
  | none =>
      by_cases hc : c = '$' <;> by_cases hbefore : before = some '\\' <;>
        by_cases hhead : s.head? = some '/' <;> simp [hc, hbefore, hhead]

/-- Without the sign of options there is no cut. -/
theorem cutOptions?_of_notMem
    {s : List Char}
    (h : '$' ∉ s)
    (before : Option Char) :
    cutOptions? before s = none := by
  induction s generalizing before with
  | nil => rfl
  | cons c s ih =>
      rw [cutOptions?_cons_eq_none_iff]
      exact ⟨ih (List.not_mem_of_not_mem_cons h) _,
        fun hc => absurd hc (Ne.symm (List.ne_of_not_mem_cons h))⟩

/-- What stands in front only matters if it is a backslash. -/
theorem cutOptions?_eq_none_congr
    {before before' : Option Char}
    (h : before ≠ some '\\')
    (h' : before' ≠ some '\\')
    (s : List Char) :
    cutOptions? before s = none ↔ cutOptions? before' s = none := by
  cases s with
  | nil => exact iff_of_true rfl rfl
  | cons c s =>
      rw [cutOptions?_cons_eq_none_iff, cutOptions?_cons_eq_none_iff, or_iff_right h,
        or_iff_right h']

/-- No cut hangs on what is beyond a comma. -/
theorem cutOptions?_append_comma
    {before : Option Char}
    (s t : List Char) :
    cutOptions? before (s ++ ',' :: t) = none ↔
      cutOptions? before s = none ∧ cutOptions? (some ',') t = none := by
  induction s generalizing before with
  | nil =>
      rw [List.nil_append, cutOptions?_cons_eq_none_iff]
      simp [cutOptions?]
  | cons c s ih =>
      rw [List.cons_append, cutOptions?_cons_eq_none_iff, cutOptions?_cons_eq_none_iff, ih]
      cases s with
      | nil => simp [cutOptions?, and_comm]
      | cons d s => simp [and_right_comm]

/-- **Options in a row are cut where one of them is.** -/
theorem cutOptions?_joinWith
    {before : Option Char}
    (h : before ≠ some '\\')
    (items : List (List Char)) :
    cutOptions? before (Text.joinWith [','] items) = none ↔
      ∀ item ∈ items, cutOptions? none item = none := by
  induction items generalizing before with
  | nil => exact iff_of_true rfl (List.forall_mem_nil _)
  | cons item items ih =>
      have hfirst := cutOptions?_eq_none_congr h (Option.some_ne_none _).symm item
      cases items with
      | nil =>
          rw [List.forall_mem_singleton, ← hfirst]
          rfl
      | cons item' items =>
          rw [Text.joinWith_cons_cons, List.append_assoc, List.singleton_append,
            cutOptions?_append_comma, ih (by decide), hfirst]
          simp only [List.forall_mem_cons]

theorem getLast?_cons_or
    (before : Option Char)
    (c : Char)
    (s : List Char) :
    (c :: s).getLast?.or before = s.getLast?.or (some c) := by
  cases hs : s.getLast? <;> simp [List.getLast?_cons, hs]

/-- **The cut of a line.** -/
theorem cutOptions?_eq_some_iff
    {before : Option Char}
    {s pattern options : List Char} :
    cutOptions? before s = some (pattern, options) ↔
      s = pattern ++ '$' :: options ∧ pattern.getLast?.or before ≠ some '\\' ∧
        options.head? ≠ some '/' ∧ cutOptions? (some '$') options = none := by
  constructor
  · intro h
    induction s generalizing before pattern with
    | nil => cases h
    | cons c s ih =>
        rw [cutOptions?] at h
        split at h
        · next hcut =>
            cases h
            obtain ⟨rfl, hlast, hoptions⟩ := ih hcut
            rw [getLast?_cons_or]
            exact ⟨rfl, hlast, hoptions⟩
        · next hnone =>
            rw [Option.ite_none_right_eq_some] at h
            obtain ⟨⟨rfl, hbefore, hhead⟩, h⟩ := h
            cases h
            exact ⟨rfl, hbefore, hhead, hnone⟩
  · rintro ⟨rfl, hlast, hhead, hnone⟩
    induction pattern generalizing before with
    | nil => rw [List.nil_append, cutOptions?, hnone, if_pos ⟨rfl, hlast, hhead⟩]
    | cons c pattern ih =>
        rw [getLast?_cons_or] at hlast
        rw [List.cons_append, cutOptions?, ih hlast]

/-- **A text without cut** has a backslash in front of every `$` or a slash behind it. -/
theorem cutOptions?_eq_none_iff
    {before : Option Char}
    {s : List Char} :
    cutOptions? before s = none ↔
      ∀ pattern options, s = pattern ++ '$' :: options →
        pattern.getLast?.or before ≠ some '\\' → options.head? = some '/' := by
  induction s generalizing before with
  | nil => simp [cutOptions?]
  | cons c s ih =>
      rw [cutOptions?_cons_eq_none_iff, ih]
      constructor
      · rintro ⟨hrest, hc⟩ pattern options h hlast
        cases pattern with
        | nil =>
            obtain ⟨rfl, rfl⟩ := List.cons.inj h
            exact (hc rfl).resolve_left hlast
        | cons d pattern =>
            obtain ⟨rfl, rfl⟩ := List.cons.inj h
            rw [getLast?_cons_or] at hlast
            exact hrest pattern options rfl hlast
      · intro h
        refine ⟨fun pattern options hs hlast => ?_, fun hc => ?_⟩
        · rw [← getLast?_cons_or] at hlast
          exact h (c :: pattern) options (congrArg (c :: ·) hs) hlast
        · rw [Decidable.or_iff_not_imp_left]
          exact h [] s (congrArg (· :: s) hc)

/-! ## The sign of an exception -/

theorem cutException_of_unsigned
    {line : List Char}
    (h : ¬ ['@', '@'] <+: line) :
    cutException line = (false, line) := by
  unfold cutException
  split
  · next s => exact absurd ⟨s, rfl⟩ h
  · rfl

/-- The sign of an exception is put back in front. -/
theorem eq_append_of_cutException
    {line body : List Char}
    {isException : Bool}
    (h : cutException line = (isException, body)) :
    line = (if isException then ['@', '@'] else []) ++ body := by
  unfold cutException at h
  split at h <;> cases h <;> rfl

theorem cutException_append_dollar
    (first s : List Char) :
    cutException (first ++ '$' :: s) =
      ((cutException first).1, (cutException first).2 ++ '$' :: s) := by
  by_cases h : ['@', '@'] <+: first
  · obtain ⟨rest, rfl⟩ := h
    rfl
  · rw [cutException_of_unsigned h, cutException_of_unsigned]
    rintro ⟨rest, hrest⟩
    match first with
    | [] => cases hrest
    | [c] => cases hrest
    | c :: d :: first =>
        cases hrest
        exact h ⟨first, rfl⟩

/-! ## The parts -/

namespace RuleParts

theorem ofLine_eq_some_iff
    {line pattern options : List Char}
    {isException : Bool} :
    ofLine line = { isException, pattern, options := some options } ↔
      cutException line = (isException, pattern ++ '$' :: options) ∧
        pattern.getLast? ≠ some '\\' ∧ options.head? ≠ some '/' ∧
        cutOptions? (some '$') options = none := by
  cases hexception : cutException line with
  | mk found body =>
      have hcut := @cutOptions?_eq_some_iff none body pattern options
      rw [Option.or_none] at hcut
      rw [Prod.mk.injEq, and_assoc, ← hcut, ofLine, hexception]
      dsimp only
      cases cutOptions? none body with
      | none => simp
      | some p => simp [Prod.ext_iff]

/-- A line with options is the sign of an exception, the pattern, the sign of options and the
options. -/
theorem eq_append_of_ofLine
    {line pattern options : List Char}
    {isException : Bool}
    (h : ofLine line = { isException, pattern, options := some options }) :
    line = (if isException then "@@".toList else []) ++ pattern ++ '$' :: options ∧
      cutException ((if isException then "@@".toList else []) ++ pattern) =
        (isException, pattern) ∧
      ((if isException then "@@".toList else []) ++ pattern).getLast? ≠ some '\\' := by
  obtain ⟨hexception, hlast, -⟩ := ofLine_eq_some_iff.mp h
  have hline := eq_append_of_cutException hexception
  refine ⟨by rw [hline, List.append_assoc]; rfl, ?_, ?_⟩
  · rw [hline, ← List.append_assoc, cutException_append_dollar, Prod.mk.injEq,
      List.append_cancel_right_eq] at hexception
    exact Prod.ext hexception.1 hexception.2
  · rw [List.getLast?_append]
    cases hpattern : pattern.getLast? with
    | none => cases isException <;> decide
    | some c => rwa [Option.some_or, ← hpattern]

/-- What the sign of options is not in occurs in front of it or behind it. -/
theorem occurs_iff_of_ofLine
    {needle : List Char}
    (hneedle : '$' ∉ needle)
    {line pattern options : List Char}
    {isException : Bool}
    (h : ofLine line = { isException, pattern, options := some options }) :
    Text.occurs needle line ↔
      Text.occurs needle ((if isException then "@@".toList else []) ++ pattern) ∨
        Text.occurs needle options := by
  rw [(eq_append_of_ofLine h).1, Text.occurs_append_cons hneedle]

/-- A line is an exception if it has the sign of one. -/
theorem isException_ofLine
    (line : List Char) :
    (ofLine line).isException = (cutException line).1 := by
  rw [ofLine]
  dsimp only
  split <;> rfl

/-- The pattern begins as the line does up to the first sign of options. -/
theorem isPrefix_pattern
    {line first rest : List Char}
    {isException : Bool}
    (hline : cutException line = (isException, first ++ rest))
    (hfirst : '$' ∉ first) :
    first <+: (ofLine line).pattern := by
  rw [ofLine, hline]
  dsimp only
  cases hcut : cutOptions? none (first ++ rest) with
  | none => exact List.prefix_append first rest
  | some p =>
      obtain ⟨hbody, -⟩ := cutOptions?_eq_some_iff.mp hcut
      have hlead : first <+: p.1 ++ '$' :: p.2 := hbody ▸ List.prefix_append first rest
      exact (Text.isPrefix_append_cons hfirst _ _).mp hlead

/-- **The sign of options after a text in which no backslash is last.** -/
theorem ofLine_append_dollar
    {first options : List Char}
    (hfirst : first.getLast? ≠ some '\\')
    (hslash : options.head? ≠ some '/')
    (hoptions : cutOptions? (some '$') options = none) :
    ofLine (first ++ '$' :: options) =
      { isException := (cutException first).1
        pattern := (cutException first).2
        options := some options } := by
  have hlast : (cutException first).2.getLast? ≠ some '\\' := by
    intro hlast
    refine hfirst ?_
    have hparts := eq_append_of_cutException (Prod.eta (cutException first)).symm
    rw [hparts, List.getLast?_append, hlast, Option.some_or]
  exact ofLine_eq_some_iff.mpr
    ⟨cutException_append_dollar first options, hlast, hslash, hoptions⟩

end RuleParts
end FilterCompiler
