import FilterCompiler.Proofs.Text
import FilterCompiler.Store.Path

/-!
# Where paths lead

The place of a path is reached by entering its names one after the other, whatever
files there are.  A path in a directory leads to the place that its name enters
from the place of the directory (`place_join`), so simple names that differ lead to
different places; and a path whose text has an ending without slash leads to a name
with that ending (`exists_place_append`).
-/

namespace FilterCompiler

namespace Path

/-! ## Places -/

/-- The place of a path. -/
def place (path : String) : List String := (names path).foldl enter (start path)

/-- The names in a text between its slashes. -/
def pieces (path : List Char) : List String :=
  ((Text.splitOn '/' path).filter (!·.isEmpty)).map String.ofList

theorem enter_eq_append
    {name : String}
    (place : List String)
    (hdot : name ≠ ".")
    (hdots : name ≠ "..") :
    enter place name = place ++ [name] := by
  rw [enter, if_neg hdot, if_neg hdots]

theorem names_eq
    (path : String) :
    names path =
      pieces path.toList ++ if Text.endsWithChar '/' path.toList then ["."] else [] := rfl

/-- A slash at the end leads nowhere else. -/
theorem place_eq
    (path : String) :
    place path = (pieces path.toList).foldl enter (start path) := by
  rw [place, names_eq, List.foldl_append]
  split <;> rfl

theorem pieces_append_cons
    (s t : List Char) :
    pieces (s ++ '/' :: t) = pieces s ++ pieces t := by
  simp only [pieces, Text.splitOn_append_cons, List.filter_append, List.map_append]

theorem pieces_of_notMem
    {name : List Char}
    (hslash : '/' ∉ name)
    (hne : name ≠ []) :
    pieces name = [String.ofList name] := by
  simp [pieces, Text.splitOn_of_notMem hslash, hne]

/-! ## Paths in a directory -/

theorem beginsWith_cons
    (c d : Char)
    (s : List Char) :
    Text.beginsWith [c] (d :: s) = decide (c = d) := by
  by_cases h : c = d <;> simp [Text.beginsWith, Text.dropLead?, h]

/-- The text of a path in a directory is that of the directory, a slash and that of
the name; a slash at the end of the directory does. -/
theorem exists_toList_join
    {directory name : String}
    (hdirectory : directory ≠ "")
    (hname : Text.beginsWith ['/'] name.toList = false) :
    ∃ before, (join directory name).toList = before ++ '/' :: name.toList ∧
      (directory.toList = before ∨ directory.toList = before ++ ['/']) := by
  rw [join, if_neg (by simp [hname, hdirectory])]
  split
  · next hslash =>
      rw [Text.endsWithChar, beq_iff_eq] at hslash
      obtain ⟨before, hbefore⟩ := List.getLast?_eq_some_iff.mp hslash
      exact ⟨before, by simp [hbefore], .inr hbefore⟩
  · exact ⟨directory.toList, by simp, .inl rfl⟩

theorem start_join
    {directory name : String}
    (hdirectory : directory ≠ "")
    (hname : Text.beginsWith ['/'] name.toList = false) :
    start (join directory name) = start directory := by
  obtain ⟨before, hjoin, hbefore⟩ := exists_toList_join hdirectory hname
  rw [start, start, hjoin]
  cases before with
  | nil =>
      rcases hbefore with hbefore | hbefore
      · exact absurd (String.toList_eq_nil_iff.mp hbefore) hdirectory
      · rw [hbefore]
        rfl
  | cons c before =>
      rcases hbefore with hbefore | hbefore <;>
        simp only [hbefore, List.cons_append, beginsWith_cons]

/-- **A path in a directory leads to the place that its name enters from the place of
the directory.** -/
theorem place_join
    {directory name : String}
    (hname : Text.beginsWith ['/'] name.toList = false) :
    place (join directory name) = (pieces name.toList).foldl enter (place directory) := by
  by_cases hdirectory : directory = ""
  · subst hdirectory
    have hjoin : join "" name = name := by simp [join]
    have hstart : start name = [] := by simp [start, hname]
    rw [hjoin, place_eq, hstart]
    rfl
  · obtain ⟨before, hjoin, hbefore⟩ := exists_toList_join hdirectory hname
    have hpieces : pieces directory.toList = pieces before := by
      rcases hbefore with hbefore | hbefore
      · rw [hbefore]
      · rw [hbefore, pieces_append_cons]
        exact List.append_nil _
    rw [place_eq, place_eq, start_join hdirectory hname, hjoin, pieces_append_cons,
      List.foldl_append, hpieces]

/-- A name that is one word and no way back. -/
structure IsSimple (name : String) : Prop where
  noSlash : '/' ∉ name.toList
  ne_empty : name ≠ ""
  ne_dot : name ≠ "."
  ne_dots : name ≠ ".."

theorem place_join_of_isSimple
    {name : String}
    (h : IsSimple name)
    (directory : String) :
    place (join directory name) = place directory ++ [name] := by
  have hne : name.toList ≠ [] := fun hnil => h.ne_empty (String.toList_eq_nil_iff.mp hnil)
  have hname : Text.beginsWith ['/'] name.toList = false := by
    have hslash := h.noSlash
    cases hchars : name.toList with
    | nil => exact absurd hchars hne
    | cons c chars =>
        rw [hchars, List.mem_cons, not_or] at hslash
        rw [beginsWith_cons, decide_eq_false_iff_not]
        exact hslash.1
  rw [place_join hname, pieces_of_notMem h.noSlash hne, String.ofList_toList]
  exact enter_eq_append _ h.ne_dot h.ne_dots

/-- **A path whose text has an ending without slash leads to a name with that ending**,
unless the name may be one of the ways back. -/
theorem exists_place_append
    {path : String}
    {before ending : List Char}
    (hpath : path.toList = before ++ ending)
    (hslash : '/' ∉ ending)
    (hlength : 2 < ending.length) :
    ∃ above last, place path = above ++ [String.ofList (last ++ ending)] := by
  obtain ⟨parts, last, hsplit⟩ := Text.exists_splitOn_append hslash before
  have hlong : 2 < (last ++ ending).length := by
    rw [List.length_append]
    omega
  have hpieces : pieces path.toList =
      (parts.filter (!·.isEmpty)).map String.ofList ++ [String.ofList (last ++ ending)] := by
    have hne : (!(last ++ ending).isEmpty) = true := by
      cases hlast : last ++ ending with
      | nil => simp [hlast] at hlong
      | cons => rfl
    have hlast : [last ++ ending].filter (!·.isEmpty) = [last ++ ending] :=
      List.filter_cons_of_pos hne
    rw [pieces, hpath, hsplit, List.filter_append, hlast, List.map_append]
    rfl
  have hname : ∀ name : String, name.toList.length ≤ 2 → String.ofList (last ++ ending) ≠ name := by
    rintro name hshort rfl
    rw [String.toList_ofList] at hshort
    omega
  refine ⟨((parts.filter (!·.isEmpty)).map String.ofList).foldl enter (start path), last, ?_⟩
  rw [place_eq, hpieces, List.foldl_append, List.foldl_cons, List.foldl_nil,
    enter_eq_append _ (hname "." (by decide)) (hname ".." (by decide))]

/-- The text of a path in a directory ends with that of the name. -/
theorem exists_toList_join_eq_append
    (directory name : String) :
    ∃ before, (join directory name).toList = before ++ name.toList := by
  rw [join]
  split
  · exact ⟨[], rfl⟩
  split
  · exact ⟨directory.toList, String.toList_append⟩
  · exact ⟨(directory ++ "/").toList, String.toList_append⟩

/-! ## The directory of a path -/

theorem trimReversed_suffix
    (path : List Char) :
    trimReversed path <:+ path := by
  fun_induction trimReversed path with
  | case1 path ih => exact ih.trans (List.suffix_cons _ _)
  | case2 path ih => exact ih.trans ((List.suffix_cons _ _).trans (List.suffix_cons _ _))
  | case3 => exact List.suffix_rfl

theorem head?_trimReversed
    (path : List Char) :
    (trimReversed path).head? ≠ some '/' := by
  fun_induction trimReversed path with
  | case1 path ih => exact ih
  | case2 path ih => exact ih
  | case3 path hslash =>
      cases path with
      | nil => simp
      | cons c path =>
          rintro ⟨⟩
          exact hslash path rfl

/-- What is trimmed from the end of a path are names `.` only. -/
theorem exists_pieces_trimReversed
    (path : List Char) :
    ∃ dots, pieces path.reverse = pieces (trimReversed path).reverse ++ dots := by
  fun_induction trimReversed path with
  | case1 path ih =>
      obtain ⟨dots, hdots⟩ := ih
      refine ⟨dots, ?_⟩
      rw [List.reverse_cons, pieces_append_cons, hdots]
      exact List.append_nil _
  | case2 path ih =>
      obtain ⟨dots, hdots⟩ := ih
      refine ⟨dots ++ ["."], ?_⟩
      rw [List.reverse_cons, List.reverse_cons, List.append_assoc, List.singleton_append,
        pieces_append_cons, hdots, List.append_assoc]
      rfl
  | case3 => exact ⟨[], (List.append_nil _).symm⟩

/-- What follows the last slash of a path is a name, or asks for a directory. -/
theorem pieces_append_ne_nil
    {path directory last : List Char}
    (hpath : path = directory ++ '/' :: last)
    (hslash : '/' ∉ last) :
    pieces last ++ (if Text.endsWithChar '/' path then ["."] else []) ≠ [] := by
  cases last with
  | nil => simp [hpath, Text.endsWithChar]
  | cons c last => simp [pieces_of_notMem hslash]

/-- **The names of a path go on where those of its directory end.** -/
theorem parent_cases
    (path : String) :
    parent path = "" ∨ parent path = "/" ∨
      (parent path).toList <+: path.toList ∧ start (parent path) = start path ∧
        ∃ more, more ≠ [] ∧ names path = names (parent path) ++ more := by
  rw [parent]
  cases hbreak : Text.breakAtLast? '/' path.toList with
  | none => exact .inl rfl
  | some p =>
      obtain ⟨directory, last⟩ := p
      have hpath := Text.breakAtLast?_eq_some hbreak
      have hlast := pieces_append_ne_nil hpath (Text.notMem_of_breakAtLast?_eq_some hbreak)
      obtain ⟨dots, hdots⟩ := exists_pieces_trimReversed directory.reverse
      have hinitial : (trimReversed directory.reverse).reverse <+: path.toList := by
        have hdirectory := List.reverse_prefix.mpr (trimReversed_suffix directory.reverse)
        rw [List.reverse_reverse] at hdirectory
        exact hdirectory.trans (hpath ▸ List.prefix_append _ _)
      have hends : Text.endsWithChar '/' (trimReversed directory.reverse).reverse = false := by
        rw [Text.endsWithChar, List.getLast?_reverse, beq_eq_false_iff_ne]
        exact head?_trimReversed _
      rw [List.reverse_reverse] at hdots
      dsimp only at hpath hlast ⊢
      generalize (trimReversed directory.reverse).reverse = trimmed at hdots hinitial hends ⊢
      split
      · exact .inr (.inl rfl)
      · next hne =>
          refine .inr (.inr ⟨by simpa using hinitial, ?_, dots ++ (pieces last ++
            if Text.endsWithChar '/' path.toList then ["."] else []), ?_, ?_⟩)
          · obtain ⟨rest, hrest⟩ := hinitial
            cases trimmed with
            | nil => simp at hne
            | cons c trimmed =>
                rw [start, start, String.toList_ofList, ← hrest, List.cons_append,
                  beginsWith_cons, beginsWith_cons]
          · exact List.append_ne_nil_of_right_ne_nil _ hlast
          · have hpieces : pieces path.toList = pieces trimmed ++ dots ++ pieces last := by
              rw [hpath, pieces_append_cons, hdots]
            rw [names_eq, names_eq, String.toList_ofList, hends, hpieces]
            simp only [Bool.false_eq_true, if_false, List.append_nil, List.append_assoc]

end Path
end FilterCompiler
