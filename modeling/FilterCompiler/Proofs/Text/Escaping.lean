import FilterCompiler.Proofs.Text

/-!
# Lists with escaped separators

A list of texts is written down with a backslash in front of every separator that
belongs to a text, and with bare separators in between.  Cutting at the bare
separators gives the list back, unless a text ends with a backslash and another
one follows: there the separator in between is taken for an escaped one
(`splitEscaped_joinEscaped_iff`).
-/

namespace FilterCompiler
namespace Text

/-- The text with a backslash in front of every separator. -/
def escaped (sep : Char) (s : List Char) : List Char :=
  s.flatMap fun c => if c = sep then ['\\', c] else [c]

/-- The texts, their separators escaped, with the separator in between. -/
def joinEscaped (sep : Char) (pieces : List (List Char)) : List Char :=
  joinWith [sep] (pieces.map (escaped sep))

variable {sep : Char}

@[simp] theorem escaped_nil :
    escaped sep [] = [] := rfl

theorem escaped_sep_cons
    (s : List Char) :
    escaped sep (sep :: s) = '\\' :: sep :: escaped sep s := by
  simp [escaped]

theorem escaped_cons_of_ne
    {c : Char}
    (hc : c ≠ sep)
    (s : List Char) :
    escaped sep (c :: s) = c :: escaped sep s := by
  simp [escaped, hc]

theorem escaped_append
    (s t : List Char) :
    escaped sep (s ++ t) = escaped sep s ++ escaped sep t :=
  List.flatMap_append

theorem joinEscaped_cons_cons
    (piece piece' : List Char)
    (pieces : List (List Char)) :
    joinEscaped sep (piece :: piece' :: pieces) =
      escaped sep piece ++ sep :: joinEscaped sep (piece' :: pieces) := by
  simp [joinEscaped, joinWith_cons_cons]

section Separator

variable (hsep : sep ≠ '\\')

include hsep

/-- No escaped text begins with the separator. -/
theorem head?_escaped_append_ne
    {s : List Char}
    (hne : s ≠ [])
    (t : List Char) :
    (escaped sep s ++ t).head? ≠ some sep := by
  obtain ⟨c, s, rfl⟩ := List.exists_cons_of_ne_nil hne
  by_cases hc : c = sep
  · subst hc
    simpa [escaped_sep_cons] using hsep.symm
  · simpa [escaped_cons_of_ne hc] using hc

/-- **An escaped text belongs to the first piece of what follows.**  Only a separator behind
its last backslash would be taken for an escaped one. -/
theorem splitEscaped_escaped_append
    {s t piece : List Char}
    {pieces : List (List Char)}
    (hend : s.getLast? = some '\\' → t.head? ≠ some sep)
    (h : splitEscaped sep t = piece :: pieces) :
    splitEscaped sep (escaped sep s ++ t) = (s ++ piece) :: pieces := by
  induction s with
  | nil => exact h
  | cons c s ih =>
      have hrest : splitEscaped sep (escaped sep s ++ t) = (s ++ piece) :: pieces :=
        ih fun hlast => hend (by rw [List.getLast?_cons, hlast, Option.getD_some])
      by_cases hc : c = sep
      · subst hc
        rw [escaped_sep_cons, List.cons_append, List.cons_append, splitEscaped_escaped_cons,
          hrest, consFirst, List.cons_append]
      · have hnext : c = '\\' → (escaped sep s ++ t).head? ≠ some sep := by
          rintro rfl
          by_cases hs : s = []
          · subst hs
            exact hend rfl
          · exact head?_escaped_append_ne hsep hs t
        rw [escaped_cons_of_ne hc, List.cons_append, splitEscaped_cons_of_ne hc hnext, hrest,
          consFirst, List.cons_append]

theorem splitEscaped_escaped
    (s : List Char) :
    splitEscaped sep (escaped sep s) = [s] := by
  have hsplit := splitEscaped_escaped_append hsep (s := s) (t := []) (by simp)
    (splitEscaped.eq_1 sep)
  rwa [List.append_nil, List.append_nil] at hsplit

/-- A separator behind an escaped text ends its piece. -/
theorem splitEscaped_escaped_append_cons
    {s : List Char}
    (hs : s.getLast? ≠ some '\\')
    (t : List Char) :
    splitEscaped sep (escaped sep s ++ sep :: t) = s :: splitEscaped sep t := by
  have hsplit := splitEscaped_escaped_append hsep (fun hlast => absurd hlast hs)
    (splitEscaped_sep_cons hsep t)
  rwa [List.append_nil] at hsplit

/-- Behind a backslash the separator stays in the piece, in the place of the backslash. -/
theorem exists_splitEscaped_backslash
    (s t : List Char) :
    ∃ piece pieces,
      splitEscaped sep (escaped sep (s ++ ['\\']) ++ sep :: t) = (s ++ sep :: piece) :: pieces := by
  obtain ⟨piece, pieces, ht⟩ := List.exists_cons_of_ne_nil (splitEscaped_ne_nil sep t)
  have hnext : splitEscaped sep ('\\' :: sep :: t) = (sep :: piece) :: pieces := by
    rw [splitEscaped_escaped_cons, ht, consFirst]
  have hescaped : escaped sep (s ++ ['\\']) ++ sep :: t = escaped sep s ++ '\\' :: sep :: t := by
    rw [escaped_append, escaped_cons_of_ne hsep.symm, escaped_nil, List.append_assoc]
    rfl
  refine ⟨piece, pieces, ?_⟩
  rw [hescaped]
  exact splitEscaped_escaped_append hsep (fun _ hhead => hsep (Option.some.inj hhead).symm) hnext

/-- **Cutting at bare separators undoes joining with escaped ones** for the lists that are
not empty and in which only the last text may end with a backslash, and for no others. -/
theorem splitEscaped_joinEscaped_iff
    (pieces : List (List Char)) :
    splitEscaped sep (joinEscaped sep pieces) = pieces ↔
      pieces ≠ [] ∧ ∀ piece ∈ pieces.dropLast, piece.getLast? ≠ some '\\' := by
  induction pieces with
  | nil => simp [joinEscaped, joinWith, splitEscaped]
  | cons piece pieces ih =>
      cases pieces with
      | nil => simp [joinEscaped, joinWith, splitEscaped_escaped hsep]
      | cons piece' pieces =>
          rw [joinEscaped_cons_cons, List.dropLast_cons_cons, List.forall_mem_cons]
          by_cases hlast : piece.getLast? = some '\\'
          · -- the first text takes in the separator behind it
            obtain ⟨front, rfl⟩ := List.getLast?_eq_some_iff.mp hlast
            obtain ⟨more, rest, hsplit⟩ :=
              exists_splitEscaped_backslash hsep front (joinEscaped sep (piece' :: pieces))
            refine iff_of_false ?_ fun h => h.2.1 hlast
            rw [hsplit]
            intro heq
            have htail := List.append_cancel_left (List.cons.inj heq).1
            exact hsep (List.cons.inj htail).1
          · rw [splitEscaped_escaped_append_cons hsep hlast, List.cons.injEq, ih]
            simp [hlast]

end Separator

/-- A comma behind backslashes, an empty text, and a last text that ends with a backslash. -/
theorem splitEscaped_joinEscaped_commas :
    joinEscaped ',' ["a\\\\,b".toList, [], "c\\".toList] = "a\\\\\\,b,,c\\".toList ∧
      splitEscaped ',' "a\\\\\\,b,,c\\".toList = ["a\\\\,b".toList, [], "c\\".toList] := by
  have hjoin :
      joinEscaped ',' ["a\\\\,b".toList, [], "c\\".toList] = "a\\\\\\,b,,c\\".toList := by
    decide
  refine ⟨hjoin, hjoin ▸ ?_⟩
  exact (splitEscaped_joinEscaped_iff (by decide) _).mpr ⟨by decide, by decide⟩

end Text
end FilterCompiler
