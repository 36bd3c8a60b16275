import FilterCompiler.Proofs.Text
import FilterCompiler.Rule.Selector

/-!
# Selectors that need the extended engine

The scan of a selector remembers one name at most, the one since the last colon, and
forgets it at a parenthesis.  What it has still to find is therefore told by the rest of
the selector and by that name: an attribute of the extended engine, the end of the name
at a parenthesis, or a whole name further on (`scan_iff`).  So the scan finds every name
between a colon and a parenthesis, however they are nested (`isExtended_iff`).
-/

namespace FilterCompiler
namespace Selector

variable {version : HostVersion} {lead s : List Char} {c : Char}

/-! ## Names -/

/-- The text goes on with the rest of a name that begins with `lead` and with the
parenthesis that ends it, and the name needs the extended engine. -/
def EndsName (version : HostVersion) (lead s : List Char) : Prop :=
  ∃ rest after, s = rest ++ '(' :: after ∧ ':' ∉ rest ∧ '(' ∉ rest ∧
    isExtendedName version (lead ++ rest)

/-- Somewhere in the text a name that needs the extended engine stands between a colon
and a parenthesis. -/
def HasName (version : HostVersion) (s : List Char) : Prop :=
  ∃ before after, s = before ++ ':' :: after ∧ EndsName version [] after

theorem isExtendedName_iff
    (version : HostVersion)
    (name : List Char) :
    isExtendedName version name ↔
      2 ≤ Text.byteLength name ∧
        ¬ (name = "has".toList ∧ version.supportsNativeHas) ∧
        ¬ (name = "is".toList ∧ version.supportsNativeIs) ∧
        ("-abp-".toList <+: name ∨ String.ofList name ∈ extendedPseudoClasses) := by
  have htext : ∀ s : String, String.ofList name = s ↔ name = s.toList := by
    intro s
    rw [← String.toList_inj, String.toList_ofList]
  simp only [isExtendedName, isNative, dialectLead, Bool.and_eq_true, Bool.or_eq_true,
    Bool.not_eq_true', ← Bool.not_eq_true, not_or, decide_eq_true_eq, beq_iff_eq, htext,
    Text.beginsWith_iff, List.contains_iff_mem, and_assoc]

/-! ## One character more -/

theorem not_endsName_nil : ¬ EndsName version lead [] := by
  rintro ⟨rest, after, h, -⟩
  exact List.append_ne_nil_of_right_ne_nil rest (List.cons_ne_nil _ _) h.symm

/-- A colon is in no name. -/
theorem not_endsName_colon : ¬ EndsName version lead (':' :: s) := by
  rintro ⟨_ | ⟨d, rest⟩, after, h, hcolon, -⟩
  · cases h
  · obtain ⟨rfl, -⟩ := List.cons.inj h
    exact hcolon List.mem_cons_self

/-- A parenthesis ends the name that has been read. -/
theorem endsName_parenthesis_iff :
    EndsName version lead ('(' :: s) ↔ isExtendedName version lead := by
  constructor
  · rintro ⟨_ | ⟨d, rest⟩, after, h, -, hparenthesis, hname⟩
    · rwa [List.append_nil] at hname
    · obtain ⟨rfl, -⟩ := List.cons.inj h
      exact absurd List.mem_cons_self hparenthesis
  · intro hname
    exact ⟨[], s, rfl, List.not_mem_nil, List.not_mem_nil, by rwa [List.append_nil]⟩

/-- Any other character is one more of the name. -/
theorem endsName_cons_iff
    (hcolon : c ≠ ':')
    (hparenthesis : c ≠ '(') :
    EndsName version lead (c :: s) ↔ EndsName version (lead ++ [c]) s := by
  constructor
  · rintro ⟨_ | ⟨d, rest⟩, after, h, hrest, hrest', hname⟩
    · exact absurd (List.cons.inj h).1 hparenthesis
    · obtain ⟨rfl, rfl⟩ := List.cons.inj h
      exact ⟨rest, after, rfl, List.not_mem_of_not_mem_cons hrest,
        List.not_mem_of_not_mem_cons hrest', by rwa [List.append_assoc]⟩
  · rintro ⟨rest, after, rfl, hrest, hrest', hname⟩
    refine ⟨c :: rest, after, rfl, List.not_mem_cons_of_ne_of_not_mem hcolon.symm hrest,
      List.not_mem_cons_of_ne_of_not_mem hparenthesis.symm hrest', ?_⟩
    rwa [List.append_assoc] at hname

theorem hasName_cons_iff :
    HasName version (c :: s) ↔ (c = ':' ∧ EndsName version [] s) ∨ HasName version s := by
  constructor
  · rintro ⟨_ | ⟨d, before⟩, after, h, hname⟩
    · obtain ⟨rfl, rfl⟩ := List.cons.inj h
      exact .inl ⟨rfl, hname⟩
    · obtain ⟨rfl, rfl⟩ := List.cons.inj h
      exact .inr ⟨before, after, rfl, hname⟩
  · rintro (⟨rfl, hname⟩ | ⟨before, after, rfl, hname⟩)
    · exact ⟨[], s, rfl, hname⟩
    · exact ⟨c :: before, after, rfl, hname⟩

/-! ## The scan -/

/-- **What the scan finds in the rest of a selector**, given the name that it remembers. -/
theorem scan_iff
    (version : HostVersion)
    (name : Option (List Char))
    (s : List Char) :
    scan version name s ↔
      extendedAttribute <:+: s ∨ (∃ n ∈ name, EndsName version n.reverse s) ∨
        HasName version s := by
  induction s generalizing name with
  | nil =>
      have hname : ¬ HasName version [] := by
        rintro ⟨before, after, h, -⟩
        exact List.append_ne_nil_of_right_ne_nil before (List.cons_ne_nil _ _) h.symm
      simp [scan, not_endsName_nil, hname, extendedAttribute]
  | cons c s ih =>
      rw [scan, hasName_cons_iff, List.infix_cons_iff]
      split
      · next hattribute => simp [Text.beginsWith_iff.mp hattribute]
      next hattribute =>
      rw [or_iff_right (mt Text.beginsWith_iff.mpr hattribute)]
      split
      · -- the name that has been read so far is given up
        next hcolon =>
        subst hcolon
        simp [ih, not_endsName_colon]
      next hcolon =>
      split
      · next hparenthesis =>
        subst hparenthesis
        rw [Bool.or_eq_true, ih]
        cases name <;> simp [endsName_parenthesis_iff, or_left_comm]
      next hparenthesis =>
      rw [ih]
      cases name <;> simp [endsName_cons_iff hcolon hparenthesis, hcolon]

/-- **A selector needs the extended engine if and only if it says so**: it has six bytes
at least, and in it stands an attribute of that engine, or between a colon and a
parenthesis, with neither sign between them, a name of at least two bytes that the host's
own engine does not know and that is of one dialect or on the list. -/
theorem isExtended_iff
    (version : HostVersion)
    (selector : List Char) :
    isExtended version selector ↔
      6 ≤ Text.byteLength selector ∧
        ("[-ext-".toList <:+: selector ∨
          ∃ before name after,
            selector = before ++ ':' :: (name ++ '(' :: after) ∧
              ':' ∉ name ∧ '(' ∉ name ∧
              2 ≤ Text.byteLength name ∧
              ¬ (name = "has".toList ∧ version.supportsNativeHas) ∧
              ¬ (name = "is".toList ∧ version.supportsNativeIs) ∧
              ("-abp-".toList <+: name ∨ String.ofList name ∈ extendedPseudoClasses)) := by
  simp only [← isExtendedName_iff]
  rw [isExtended, Bool.and_eq_true, decide_eq_true_eq, scan_iff]
  refine and_congr_right fun _ => or_congr_right ?_
  simp only [Option.not_mem_none, false_and, exists_false, false_or]
  constructor
  · rintro ⟨before, _, rfl, name, after, rfl, hname⟩
    exact ⟨before, name, after, rfl, hname⟩
  · rintro ⟨before, name, after, rfl, hname⟩
    exact ⟨before, _, rfl, name, after, rfl, hname⟩

/-- A pseudo-class of the host around one of the extended engine. -/
example : isExtended .v17 "a:not(:has-text(b))".toList = true := by decide

end Selector
end FilterCompiler
