import FilterCompiler.Domain
import FilterCompiler.Proofs.Text
import Mathlib.Order.Defs.Unbundled

/-!
# The order of domains

A host is at or under a domain if it is the domain, or if it ends with a dot and
the domain and the domain is not empty.  The walk from a host to its parents
finds exactly these domains (`isWithin_iff`).  It is a tree order: a partial order
in which the domains above one host are comparable, since they are ends of the
same text (`isWithin_isTreeOrder`).
-/

namespace FilterCompiler

/-- An order in which the members above a given one form a chain. -/
structure IsTreeOrder {α : Type} (r : α → α → Prop) : Prop extends IsPartialOrder α r where
  comparable : ∀ {a b c}, r a b → r a c → r b c ∨ r c b

namespace Domain

/-- The host is the domain or one of its subdomains. -/
def IsAtOrUnder (host domain : String) : Prop :=
  host = domain ∨ domain ≠ "" ∧ '.' :: domain.toList <:+ host.toList

instance (host domain : String) : Decidable (IsAtOrUnder host domain) :=
  inferInstanceAs (Decidable (_ ∨ _ ∧ _))

/-! ## Parents -/

theorem suffix_label_iff
    {label : List Char}
    (hlabel : '.' ∉ label)
    (domain rest : List Char) :
    '.' :: domain <:+ label ++ '.' :: rest ↔ domain = rest ∨ '.' :: domain <:+ rest := by
  -- no end that begins with a dot begins within the label, which has none
  induction label with
  | nil => simp [List.suffix_cons_iff]
  | cons c label ih =>
      rw [List.mem_cons, not_or] at hlabel
      rw [List.cons_append, List.suffix_cons_iff, ih hlabel.2, List.cons.injEq]
      constructor
      · rintro (⟨hc, -⟩ | h)
        · exact absurd hc hlabel.1
        · exact h
      · exact .inr

theorem exists_label_of_parent?
    {host rest : List Char}
    (h : parent? host = some rest) :
    rest ≠ [] ∧ ∃ label, '.' ∉ label ∧ host = label ++ '.' :: rest := by
  unfold parent? at h
  split at h
  · cases h
  · next label rest' hrest hbreak =>
      cases h
      exact ⟨hrest, label, Text.notMem_of_breakAt?_eq_some hbreak, Text.breakAt?_eq_some hbreak⟩
  · cases h

theorem exists_label_of_parent?_eq_none
    {host : List Char}
    (h : parent? host = none) :
    '.' ∉ host ∨ ∃ label, '.' ∉ label ∧ host = label ++ ['.'] := by
  unfold parent? at h
  split at h
  · next label hbreak =>
      exact .inr ⟨label, Text.notMem_of_breakAt?_eq_some hbreak, Text.breakAt?_eq_some hbreak⟩
  · cases h
  · next hbreak => exact .inl (Text.notMem_of_breakAt?_eq_none hbreak)

/-- The parents of a host are the ends of it after a dot that are not empty. -/
theorem isParent_iff
    (domain host : List Char) :
    isParent domain host ↔ domain ≠ [] ∧ '.' :: domain <:+ host := by
  fun_induction isParent domain host with
  | case1 host rest hparent ih =>
      obtain ⟨hrest, label, hlabel, rfl⟩ := exists_label_of_parent? hparent
      rw [Bool.or_eq_true, decide_eq_true_iff, ih, suffix_label_iff hlabel]
      constructor
      · rintro (rfl | ⟨hdomain, hsuffix⟩)
        · exact ⟨hrest, .inl rfl⟩
        · exact ⟨hdomain, .inr hsuffix⟩
      · rintro ⟨hdomain, rfl | hsuffix⟩
        · exact .inl rfl
        · exact .inr ⟨hdomain, hsuffix⟩
  | case2 host hparent =>
      refine iff_of_false Bool.false_ne_true ?_
      rintro ⟨hdomain, hsuffix⟩
      rcases exists_label_of_parent?_eq_none hparent with hdot | ⟨label, hlabel, rfl⟩
      · exact hdot (hsuffix.subset List.mem_cons_self)
      · rw [suffix_label_iff hlabel] at hsuffix
        simp [hdomain] at hsuffix

/-- **The walk over parents finds the domains at or above a host.** -/
theorem isWithin_iff
    (host domain : String) :
    isWithin host domain ↔ IsAtOrUnder host domain := by
  rw [isWithin, Bool.or_eq_true, decide_eq_true_iff, isParent_iff, IsAtOrUnder, Ne,
    String.toList_eq_nil_iff]

/-! ## The order -/

theorem IsAtOrUnder.trans
    {host domain above : String}
    (h : IsAtOrUnder host domain)
    (habove : IsAtOrUnder domain above) :
    IsAtOrUnder host above := by
  rcases h with rfl | ⟨hdomain, hsuffix⟩
  · exact habove
  rcases habove with rfl | ⟨habove, hsuffix'⟩
  · exact .inr ⟨hdomain, hsuffix⟩
  · refine .inr ⟨habove, hsuffix'.trans ?_⟩
    exact (List.suffix_cons _ _).trans hsuffix

theorem IsAtOrUnder.antisymm
    {host domain : String}
    (h : IsAtOrUnder host domain)
    (h' : IsAtOrUnder domain host) :
    host = domain := by
  rcases h with rfl | ⟨-, hsuffix⟩
  · rfl
  rcases h' with rfl | ⟨-, hsuffix'⟩
  · rfl
  -- each of the two texts would be longer than the other
  have hlength := hsuffix.length_le
  have hlength' := hsuffix'.length_le
  rw [List.length_cons] at hlength hlength'
  omega

theorem IsAtOrUnder.of_suffix
    {domain above : String}
    (habove : above ≠ "")
    (h : '.' :: above.toList <:+ '.' :: domain.toList) :
    IsAtOrUnder domain above := by
  rcases List.suffix_cons_iff.mp h with heq | hsuffix
  · exact .inl (String.toList_injective (List.cons.inj heq).2.symm)
  · exact .inr ⟨habove, hsuffix⟩

/-- **Domains above one host are comparable**, since they are ends of the same
text that begin after a dot. -/
theorem IsAtOrUnder.comparable
    {host domain domain' : String}
    (h : IsAtOrUnder host domain)
    (h' : IsAtOrUnder host domain') :
    IsAtOrUnder domain domain' ∨ IsAtOrUnder domain' domain := by
  rcases h with rfl | ⟨hdomain, hsuffix⟩
  · exact .inl h'
  rcases h' with rfl | ⟨hdomain', hsuffix'⟩
  · exact .inr (.inr ⟨hdomain, hsuffix⟩)
  rcases List.suffix_or_suffix_of_suffix hsuffix hsuffix' with hends | hends
  · exact .inr (of_suffix hdomain hends)
  · exact .inl (of_suffix hdomain' hends)

theorem isTreeOrder_isAtOrUnder :
    IsTreeOrder IsAtOrUnder where
  refl _ := .inl rfl
  trans _ _ _ := IsAtOrUnder.trans
  antisymm _ _ := IsAtOrUnder.antisymm
  comparable := IsAtOrUnder.comparable

/-- **The subdomain test is a tree order.**  It holds of a text and of every end of it
after a dot that is not empty, and of nothing else, whatever labels are empty. -/
theorem isWithin_isTreeOrder :
    (∀ host domain : String,
      isWithin host domain ↔
        host = domain ∨ domain ≠ "" ∧ '.' :: domain.toList <:+ host.toList) ∧
      IsTreeOrder fun host domain : String => isWithin host domain = true := by
  refine ⟨isWithin_iff, ?_⟩
  have hwithin : (fun host domain => isWithin host domain = true) = IsAtOrUnder := by
    funext host domain
    exact propext (isWithin_iff host domain)
  rw [hwithin]
  exact isTreeOrder_isAtOrUnder

/-- An empty label is a label as any other, but the end after a last dot is no domain. -/
example : isWithin "a..com" ".com" ∧ ¬ isWithin "a.com." "" := by
  decide +kernel

end Domain
end FilterCompiler
