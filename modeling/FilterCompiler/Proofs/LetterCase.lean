import FilterCompiler.Proofs.Domain

/-!
# Letter case

A text in small letters differs from the text in its letters only.  No sign is a letter,
so the text in small letters is cut at the signs where the text is cut, and into the same
pieces in small letters.  Two texts are the same but for letter case if they are the same
in small letters (`Text.SameButCase`).
-/

namespace FilterCompiler
namespace Text

/-! ## Characters -/

/-- The character, or its small form if it is a capital ASCII letter. -/
def small (c : Char) : Char := if 'A' ≤ c ∧ c ≤ 'Z' then Char.ofNat (c.toNat + 32) else c

/-- There are 26 capitals. -/
theorem forall_capital
    {P : Char → Prop}
    (h : ∀ n < 26, P (Char.ofNat (65 + n)))
    {c : Char}
    (hc : 'A' ≤ c ∧ c ≤ 'Z') :
    P c := by
  have hlow : 65 ≤ c.toNat := hc.1
  have hhigh : c.toNat ≤ 90 := hc.2
  have hP := h (c.toNat - 65) (by omega)
  rwa [Nat.add_sub_cancel' hlow, Char.ofNat_toNat] at hP

theorem small_of_not_capital
    {c : Char}
    (h : ¬ ('A' ≤ c ∧ c ≤ 'Z')) :
    small c = c := by
  exact if_neg h

theorem small_small
    (c : Char) :
    small (small c) = small c := by
  by_cases hc : 'A' ≤ c ∧ c ≤ 'Z'
  · exact forall_capital (P := fun c => small (small c) = small c) (by decide) hc
  · rw [small_of_not_capital hc, small_of_not_capital hc]

theorem utf8Size_small
    (c : Char) :
    (small c).utf8Size = c.utf8Size := by
  by_cases hc : 'A' ≤ c ∧ c ≤ 'Z'
  · exact forall_capital (P := fun c => (small c).utf8Size = c.utf8Size) (by decide) hc
  · rw [small_of_not_capital hc]

theorem isAscii_small
    (c : Char) :
    isAscii (small c) = isAscii c := by
  by_cases hc : 'A' ≤ c ∧ c ≤ 'Z'
  · exact forall_capital (P := fun c => isAscii (small c) = isAscii c) (by decide) hc
  · rw [small_of_not_capital hc]

/-- **Only a sign is in small letters what a sign is.** -/
theorem small_eq_iff
    {sign : Char}
    (hsign : Domain.isLetter sign = false)
    {c : Char} :
    small c = sign ↔ c = sign := by
  by_cases hc : 'A' ≤ c ∧ c ≤ 'Z'
  · have hletter : Domain.isLetter c = true ∧ Domain.isLetter (small c) = true :=
      forall_capital
        (P := fun c => Domain.isLetter c = true ∧ Domain.isLetter (small c) = true) (by decide) hc
    refine iff_of_false ?_ ?_
    · rintro rfl
      exact absurd hsign (by simp [hletter.2])
    · rintro rfl
      exact absurd hsign (by simp [hletter.1])
  · rw [small_of_not_capital hc]

/-! ## Texts -/

/-- The text in small letters. -/
def lower (s : List Char) : List Char := s.map small

@[simp] theorem lower_nil : lower [] = [] := rfl

@[simp] theorem lower_cons
    (c : Char)
    (s : List Char) :
    lower (c :: s) = small c :: lower s := rfl

@[simp] theorem lower_append
    (s t : List Char) :
    lower (s ++ t) = lower s ++ lower t :=
  List.map_append

@[simp] theorem lower_lower
    (s : List Char) :
    lower (lower s) = lower s := by
  rw [lower, lower, List.map_map]
  exact List.map_congr_left fun c _ => small_small c

@[simp] theorem lower_eq_nil_iff
    {s : List Char} :
    lower s = [] ↔ s = [] :=
  List.map_eq_nil_iff

/-- The texts are the same but for the case of ASCII letters. -/
def SameButCase (s t : List Char) : Prop := lower s = lower t

instance (s t : List Char) : Decidable (SameButCase s t) :=
  inferInstanceAs (Decidable (lower s = lower t))

theorem byteLength_lower
    (s : List Char) :
    byteLength (lower s) = byteLength s := by
  induction s with
  | nil => rfl
  | cons c s ih => rw [lower_cons, byteLength, byteLength, utf8Size_small, ih]

theorem all_isAscii_lower
    (s : List Char) :
    (lower s).all isAscii = s.all isAscii := by
  rw [lower, List.all_map]
  exact congrArg (s.all ·) (funext isAscii_small)

theorem map_lower_consFirst
    (c : Char)
    (pieces : List (List Char)) :
    (consFirst c pieces).map lower = consFirst (small c) (pieces.map lower) := by
  cases pieces <;> rfl

section Sign

variable {sign : Char} (hsign : Domain.isLetter sign = false)

include hsign

theorem mem_lower_iff
    {s : List Char} :
    sign ∈ lower s ↔ sign ∈ s := by
  rw [lower, List.mem_map]
  constructor
  · rintro ⟨c, hc, hsmall⟩
    rwa [← (small_eq_iff hsign).mp hsmall]
  · exact fun hmem => ⟨sign, hmem, (small_eq_iff hsign).mpr rfl⟩

theorem head?_lower_eq_some_iff
    {s : List Char} :
    (lower s).head? = some sign ↔ s.head? = some sign := by
  cases s <;> simp [small_eq_iff hsign]

theorem getLast?_lower_eq_some_iff
    {s : List Char} :
    (lower s).getLast? = some sign ↔ s.getLast? = some sign := by
  rw [lower, List.getLast?_map]
  cases s.getLast? <;> simp [small_eq_iff hsign]

/-- **Cutting at a sign does not look at letters.** -/
theorem splitOn_lower
    (s : List Char) :
    splitOn sign (lower s) = (splitOn sign s).map lower := by
  induction s with
  | nil => rfl
  | cons c s ih =>
      rw [lower_cons, splitOn, splitOn, ih]
      by_cases hc : c = sign
      · rw [if_pos ((small_eq_iff hsign).mpr hc), if_pos hc]
        rfl
      · rw [if_neg (mt (small_eq_iff hsign).mp hc), if_neg hc, map_lower_consFirst]

theorem splitEscaped_lower
    (s : List Char) :
    splitEscaped sign (lower s) = (splitEscaped sign s).map lower := by
  have hbackslash : Domain.isLetter '\\' = false := by decide
  have hsmall : small sign = sign := (small_eq_iff hsign).mpr rfl
  fun_induction splitEscaped sign s with
  | case1 => rfl
  | case2 => simp [splitEscaped, hsmall]
  | case3 c hc => simp [splitEscaped, small_eq_iff hsign, hc]
  | case4 c d s hcd ih =>
      simp only [lower_cons, splitEscaped, small_eq_iff hbackslash, small_eq_iff hsign]
      rw [if_pos hcd, ih, map_lower_consFirst, hsmall]
  | case5 d s hd ih =>
      simp only [lower_cons, splitEscaped, small_eq_iff hbackslash, small_eq_iff hsign]
      rw [if_neg hd, if_pos trivial, ← lower_cons, ih]
      rfl
  | case6 c d s hcd hc ih =>
      simp only [lower_cons, splitEscaped, small_eq_iff hbackslash, small_eq_iff hsign]
      rw [if_neg hcd, if_neg hc, ← lower_cons, ih, map_lower_consFirst]

end Sign

section Signs

variable {signs : List Char} (hsigns : ∀ sign ∈ signs, Domain.isLetter sign = false)

include hsigns

theorem isPrefix_lower_iff
    {s : List Char} :
    signs <+: lower s ↔ signs <+: s := by
  induction signs generalizing s with
  | nil => simp
  | cons sign signs ih =>
      rw [List.forall_mem_cons] at hsigns
      cases s with
      | nil => simp
      | cons c s =>
          rw [lower_cons, List.cons_prefix_cons, List.cons_prefix_cons, ih hsigns.2,
            @eq_comm _ sign, small_eq_iff hsigns.1, @eq_comm _ c]

/-- **Signs are found where they are found in small letters.** -/
theorem isInfix_lower_iff
    {s : List Char} :
    signs <:+: lower s ↔ signs <:+: s := by
  induction s with
  | nil => rfl
  | cons c s ih =>
      rw [lower_cons, List.infix_cons_iff, List.infix_cons_iff, ih, ← lower_cons,
        isPrefix_lower_iff hsigns]

end Signs

/-! ## Texts that are the same but for letter case -/

namespace SameButCase

variable {s t : List Char}

theorem eq_nil_iff
    (h : SameButCase s t) :
    s = [] ↔ t = [] := by
  rw [← lower_eq_nil_iff, h, lower_eq_nil_iff]

theorem isEmpty_eq
    (h : SameButCase s t) :
    s.isEmpty = t.isEmpty := by
  rw [Bool.eq_iff_iff, List.isEmpty_iff, List.isEmpty_iff, h.eq_nil_iff]

theorem byteLength_eq
    (h : SameButCase s t) :
    byteLength s = byteLength t := by
  rw [← byteLength_lower, h, byteLength_lower]

theorem cons
    (c : Char)
    (h : SameButCase s t) :
    SameButCase (c :: s) (c :: t) := by
  rw [SameButCase, lower_cons, lower_cons, h]

theorem append
    {u v : List Char}
    (h : SameButCase s t)
    (h' : SameButCase u v) :
    SameButCase (s ++ u) (t ++ v) := by
  rw [SameButCase, lower_append, lower_append, h, h']

section Sign

variable {sign : Char} (hsign : Domain.isLetter sign = false)

include hsign

theorem mem_iff
    (h : SameButCase s t) :
    sign ∈ s ↔ sign ∈ t := by
  rw [← mem_lower_iff hsign, h, mem_lower_iff hsign]

theorem head?_eq_some_iff
    (h : SameButCase s t) :
    s.head? = some sign ↔ t.head? = some sign := by
  rw [← head?_lower_eq_some_iff hsign, h, head?_lower_eq_some_iff hsign]

theorem getLast?_eq_some_iff
    (h : SameButCase s t) :
    s.getLast? = some sign ↔ t.getLast? = some sign := by
  rw [← getLast?_lower_eq_some_iff hsign, h, getLast?_lower_eq_some_iff hsign]

end Sign
end SameButCase

theorem cutTilde_lower
    (s : List Char) :
    cutTilde (lower s) = ((cutTilde s).1, lower (cutTilde s).2) := by
  cases s with
  | nil => rfl
  | cons c s =>
      by_cases hc : c = '~'
      · subst hc
        rfl
      · have hsmall : small c ≠ '~' := mt (small_eq_iff (by decide)).mp hc
        rw [lower_cons]
        unfold cutTilde
        split
        · next heq => exact absurd (List.cons.inj heq).1 hsmall
        · split
          · next heq => exact absurd (List.cons.inj heq).1 hc
          · rfl

end Text

/-! ## Domains -/

namespace Domain

theorem lower_eq
    (domain : String) :
    lower domain = String.ofList (Text.lower domain.toList) := rfl

@[simp] theorem toList_lower
    (domain : String) :
    (lower domain).toList = Text.lower domain.toList := by
  rw [lower_eq, String.toList_ofList]

@[simp] theorem lower_lower
    (domain : String) :
    lower (lower domain) = lower domain := by
  rw [lower_eq (lower domain), toList_lower, Text.lower_lower, lower_eq]

/-- **A subdomain stays one in small letters.** -/
theorem isWithin_lower
    {host domain : String}
    (h : isWithin host domain) :
    isWithin (lower host) (lower domain) := by
  rw [isWithin_iff, IsAtOrUnder] at h ⊢
  rcases h with rfl | ⟨hdomain, hsuffix⟩
  · exact .inl rfl
  · refine .inr ⟨?_, ?_⟩
    · rw [Ne, ← String.toList_eq_nil_iff, toList_lower, Text.lower_eq_nil_iff,
        String.toList_eq_nil_iff]
      exact hdomain
    · have hmap := hsuffix.map Text.small
      rw [toList_lower, toList_lower]
      exact hmap

end Domain
end FilterCompiler
