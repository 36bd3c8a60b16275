import FilterCompiler.Proofs.Regex.Grammar
import Mathlib.Tactic.ByContra
import Mathlib.Tactic.SplitIfs

/-!
# The checker accepts the grammar

The checker reads a source once, with a stack of open brackets and a flag that
says whether a quantifier may follow.

* From left to right, the checker passes over the text of every tree
  (`checkFrom_items`), so it accepts what the grammar derives.
* In the other direction the invariant is `Completes stack q s`: the rest `s`
  of the source closes the brackets of `stack` one by one, with lists of items
  in between.  Every step of the checker is undone by one constructor of trees.

The main result is `check_eq_ok_iff_derives`.
-/

namespace FilterCompiler
namespace Regex

/-! ## Passing over trees -/

/-- A plain character is none of the signs. -/
theorem ne_of_isPlain
    {c d : Char}
    (hc : isPlain c = true)
    (hd : d ∈ signs) :
    c ≠ d := by
  rintro rfl
  simp [isPlain, hd] at hc

theorem isAscii_of_isPlain
    {c : Char}
    (hc : isPlain c = true) :
    Text.isAscii c = true := by
  simp only [isPlain, Bool.and_eq_true] at hc
  exact hc.1

section Steps

variable (pos : Nat) (stack : List Bracket) (q : Bool) (s : List Char)

/-- Outside of classes the innermost open bracket is no class. -/
def OutsideClass (stack : List Bracket) : Prop :=
  stack.head? ≠ some .charClass

theorem inClass_eq_false
    {stack : List Bracket}
    (h : OutsideClass stack) :
    (Scan.mk stack q).inClass = false := by
  simpa [Scan.inClass, OutsideClass] using h

/-- The checker goes on after a character that it can read. -/
theorem checkFrom_cons
    {st st' : Scan}
    {c : Char}
    (hascii : Text.isAscii c = true)
    (hslash : c ≠ '\\')
    (hstep : st.step pos s.isEmpty c = .ok st') :
    checkFrom pos st (c :: s) = checkFrom (pos + 1) st' s := by
  rw [checkFrom.eq_def]
  simp [hascii, hslash, hstep]

theorem checkFrom_plain
    {c : Char}
    (hc : isPlain c = true) :
    checkFrom pos ⟨stack, q⟩ (c :: s) =
      checkFrom (pos + 1) ⟨stack, true⟩ s := by
  have hne : ∀ d ∈ signs, c ≠ d := fun d hd => ne_of_isPlain hc hd
  apply checkFrom_cons _ _ (isAscii_of_isPlain hc) (hne '\\' (by decide))
  simp only [signs, List.forall_mem_cons] at hne
  simp [Scan.step, hne]

theorem checkFrom_escape
    {e : Char}
    (he : isEscapable e = true) :
    checkFrom pos ⟨stack, q⟩ ('\\' :: e :: s) =
      checkFrom (pos + 2) ⟨stack, true⟩ s := by
  have hascii : Text.isAscii '\\' = true := by decide
  rw [checkFrom.eq_def]
  simp [hascii, he]

theorem checkFrom_openGroup
    (h : OutsideClass stack) :
    checkFrom pos ⟨stack, q⟩ ('(' :: s) =
      checkFrom (pos + 1) ⟨.group :: stack, false⟩ s := by
  apply checkFrom_cons _ _ (by decide) (by decide)
  simp [Scan.step, inClass_eq_false q h]

theorem checkFrom_closeGroup :
    checkFrom pos ⟨.group :: stack, q⟩ (')' :: s) =
      checkFrom (pos + 1) ⟨stack, true⟩ s := by
  apply checkFrom_cons _ _ (by decide) (by decide)
  simp [Scan.step, Scan.inClass]

theorem checkFrom_openClass :
    checkFrom pos ⟨stack, q⟩ ('[' :: s) =
      checkFrom (pos + 1) ⟨.charClass :: stack, false⟩ s := by
  apply checkFrom_cons _ _ (by decide) (by decide)
  simp [Scan.step]

theorem checkFrom_closeClass :
    checkFrom pos ⟨.charClass :: stack, q⟩ (']' :: s) =
      checkFrom (pos + 1) ⟨stack, true⟩ s := by
  apply checkFrom_cons _ _ (by decide) (by decide)
  simp [Scan.step]

theorem checkFrom_quantifier
    (quantifier : Quantifier) :
    checkFrom pos ⟨stack, true⟩ (quantifier.char :: s) =
      checkFrom (pos + 1) ⟨stack, false⟩ s := by
  cases quantifier <;>
    exact checkFrom_cons _ _ (by decide) (by decide)
      (by simp [Scan.step, Quantifier.char])

theorem checkFrom_startAnchor :
    checkFrom 0 ⟨[], q⟩ ('^' :: s) = checkFrom 1 ⟨[], false⟩ s := by
  apply checkFrom_cons _ _ (by decide) (by decide)
  simp [Scan.step]

theorem checkFrom_endAnchor :
    checkFrom pos ⟨[], q⟩ ['$'] = .ok () := by
  have hstep : (Scan.mk [] q).step pos true '$' = .ok ⟨[], false⟩ := by
    simp [Scan.step]
  rw [checkFrom_cons pos [] (by decide) (by decide) hstep]
  rfl

/-- Inside of a class the flag may become anything; nothing reads it there. -/
theorem checkFrom_classPlain
    {c : Char}
    (hc : isClassPlain c = true) :
    ∃ q', checkFrom pos ⟨.charClass :: stack, q⟩ (c :: s) =
      checkFrom (pos + 1) ⟨.charClass :: stack, q'⟩ s := by
  simp only [isClassPlain, Bool.and_eq_true, bne_iff_ne] at hc
  obtain ⟨⟨⟨hascii, hslash⟩, hopen⟩, hclose⟩ := hc
  have hstep :
      ∃ q', ∀ isLast,
        (Scan.mk (.charClass :: stack) q).step pos isLast c =
          .ok ⟨.charClass :: stack, q'⟩ := by
    by_cases hc : c ∈ signs
    · simp only [signs, List.mem_cons, List.not_mem_nil, or_false] at hc
      rcases hc with
        rfl | rfl | rfl | rfl | rfl | rfl | rfl | rfl | rfl | rfl | rfl | rfl | rfl
      all_goals simp_all [Scan.step, Scan.inClass]
    · simp [signs] at hc
      exact ⟨true, fun isLast => by simp [Scan.step, hc]⟩
  obtain ⟨q', hstep⟩ := hstep
  exact ⟨q', checkFrom_cons pos s hascii hslash (hstep _)⟩

end Steps

/-- The checker passes over the inside of a class. -/
theorem checkFrom_classBody
    (body : ClassBody)
    (pos : Nat)
    (stack : List Bracket)
    (q : Bool)
    (s : List Char) :
    ∃ pos' q',
      checkFrom pos ⟨.charClass :: stack, q⟩ (body.text ++ s) =
        checkFrom pos' ⟨.charClass :: stack, q'⟩ s := by
  induction body generalizing pos stack q s with
  | nil => exact ⟨pos, q, rfl⟩
  | plain c hc rest ih =>
      obtain ⟨q₁, h₁⟩ :=
        checkFrom_classPlain pos stack q (rest.text ++ s) hc
      obtain ⟨pos', q', h₂⟩ := ih (pos + 1) stack q₁ s
      exact ⟨pos', q', by rw [ClassBody.text, List.cons_append, h₁, h₂]⟩
  | escape e he rest ih =>
      obtain ⟨pos', q', h⟩ := ih (pos + 2) stack true s
      refine ⟨pos', q', ?_⟩
      rw [ClassBody.text, List.cons_append, List.cons_append,
        checkFrom_escape _ _ _ _ he, h]
  | nested inner rest ihInner ihRest =>
      obtain ⟨pos₁, q₁, h₁⟩ :=
        ihInner (pos + 1) (.charClass :: stack) false (']' :: (rest.text ++ s))
      obtain ⟨pos', q', h₂⟩ := ihRest (pos₁ + 1) stack true s
      refine ⟨pos', q', ?_⟩
      rw [ClassBody.text, List.cons_append, List.append_assoc,
        List.cons_append, checkFrom_openClass, h₁, checkFrom_closeClass, h₂]

/-- The checker passes over an optional quantifier of an atom. -/
theorem checkFrom_quantifierText
    (quantifier : Option Quantifier)
    (pos : Nat)
    (stack : List Bracket)
    (s : List Char) :
    ∃ pos' q',
      checkFrom pos ⟨stack, true⟩ (quantifierText quantifier ++ s) =
        checkFrom pos' ⟨stack, q'⟩ s := by
  cases quantifier with
  | none => exact ⟨pos, true, rfl⟩
  | some quantifier =>
      exact ⟨pos + 1, false, checkFrom_quantifier pos stack s quantifier⟩

/-- **The checker passes over every list of items.** -/
theorem checkFrom_items
    (items : Items)
    (pos : Nat)
    {stack : List Bracket}
    (hstack : OutsideClass stack)
    (q : Bool)
    (s : List Char) :
    ∃ pos' q',
      checkFrom pos ⟨stack, q⟩ (items.text ++ s) =
        checkFrom pos' ⟨stack, q'⟩ s := by
  induction items generalizing pos stack q s with
  | nil => exact ⟨pos, q, rfl⟩
  | plain c hc quantifier rest ih =>
      obtain ⟨pos₁, q₁, h₁⟩ :=
        checkFrom_quantifierText quantifier (pos + 1) stack (rest.text ++ s)
      obtain ⟨pos', q', h₂⟩ := ih pos₁ hstack q₁ s
      refine ⟨pos', q', ?_⟩
      rw [Items.text, List.cons_append, checkFrom_plain _ _ _ _ hc,
        List.append_assoc, h₁, h₂]
  | escape e he quantifier rest ih =>
      obtain ⟨pos₁, q₁, h₁⟩ :=
        checkFrom_quantifierText quantifier (pos + 2) stack (rest.text ++ s)
      obtain ⟨pos', q', h₂⟩ := ih pos₁ hstack q₁ s
      refine ⟨pos', q', ?_⟩
      rw [Items.text, List.cons_append, List.cons_append,
        checkFrom_escape _ _ _ _ he, List.append_assoc, h₁, h₂]
  | group inner quantifier rest ihInner ihRest =>
      have hgroup : OutsideClass (.group :: stack) := by simp [OutsideClass]
      obtain ⟨pos₁, q₁, h₁⟩ :=
        ihInner (pos + 1) hgroup false
          (')' :: (quantifierText quantifier ++ (rest.text ++ s)))
      obtain ⟨pos₂, q₂, h₂⟩ :=
        checkFrom_quantifierText quantifier (pos₁ + 1) stack (rest.text ++ s)
      obtain ⟨pos', q', h₃⟩ := ihRest pos₂ hstack q₂ s
      refine ⟨pos', q', ?_⟩
      rw [Items.text, List.cons_append, List.append_assoc, List.cons_append,
        List.append_assoc, checkFrom_openGroup _ _ _ _ hstack, h₁,
        checkFrom_closeGroup, h₂, h₃]
  | charClass body quantifier rest ih =>
      obtain ⟨pos₁, q₁, h₁⟩ :=
        checkFrom_classBody body (pos + 1) stack false
          (']' :: (quantifierText quantifier ++ (rest.text ++ s)))
      obtain ⟨pos₂, q₂, h₂⟩ :=
        checkFrom_quantifierText quantifier (pos₁ + 1) stack (rest.text ++ s)
      obtain ⟨pos', q', h₃⟩ := ih pos₂ hstack q₂ s
      refine ⟨pos', q', ?_⟩
      rw [Items.text, List.cons_append, List.append_assoc, List.cons_append,
        List.append_assoc, checkFrom_openClass, h₁, checkFrom_closeClass,
        h₂, h₃]

/-- The checker accepts the text of every tree. -/
theorem checkFrom_source (t : Source) :
    checkFrom 0 ⟨[], false⟩ t.text = .ok () := by
  have hout : OutsideClass [] := by simp [OutsideClass]
  have hend :
      ∀ pos q, checkFrom pos ⟨[], q⟩ (optional '$' t.isEnded) = .ok () := by
    intro pos q
    cases t.isEnded with
    | false => rfl
    | true => exact checkFrom_endAnchor pos q
  have hstart :
      ∃ pos q, checkFrom 0 ⟨[], false⟩ t.text =
        checkFrom pos ⟨[], q⟩ (t.items.text ++ optional '$' t.isEnded) := by
    cases h : t.isAnchored with
    | false => exact ⟨0, false, by simp [Source.text, optional, h]⟩
    | true =>
        refine ⟨1, false, ?_⟩
        rw [← checkFrom_startAnchor false]
        simp [Source.text, optional, h]
  obtain ⟨pos, q, hstart⟩ := hstart
  obtain ⟨pos', q', hitems⟩ :=
    checkFrom_items t.items pos hout q (optional '$' t.isEnded)
  rw [hstart, hitems, hend]

/-! ## Completing open brackets -/

/-- A list of items comes first, and then what `ends` says.  A quantifier of
the atom that has just been read may stand in front if `q` allows it. -/
def ItemsThen
    (ends : List Char → Prop)
    (q : Bool)
    (s : List Char) : Prop :=
  ∃ (lead : Option Quantifier) (items : Items) (r : List Char),
    (lead.isSome → q = true) ∧
      s = quantifierText lead ++ (items.text ++ r) ∧ ends r

/-- The inside of a class comes first, and then what `ends` says. -/
def BodyThen
    (ends : List Char → Prop)
    (s : List Char) : Prop :=
  ∃ (body : ClassBody) (r : List Char), s = body.text ++ r ∧ ends r

/-- The character comes first, and then what `ends` says. -/
def CharThen
    (c : Char)
    (ends : List Char → Prop)
    (s : List Char) : Prop :=
  ∃ r, s = c :: r ∧ ends r

/-- The text completes a source of which the given brackets are open. -/
def Completes : List Bracket → Bool → List Char → Prop
  | [], q => ItemsThen (fun r => ∃ isEnded, r = optional '$' isEnded) q
  | .group :: stack, q => ItemsThen (CharThen ')' (Completes stack true)) q
  | .charClass :: stack, _ => BodyThen (CharThen ']' (Completes stack true))

section ItemsThen

variable {ends : List Char → Prop} {q : Bool} {s : List Char}

theorem ItemsThen.of_ends (h : ends s) : ItemsThen ends q s :=
  ⟨none, .nil, s, by simp, rfl, h⟩

theorem ItemsThen.plain
    {c : Char}
    (hc : isPlain c = true)
    (h : ItemsThen ends true s) :
    ItemsThen ends q (c :: s) := by
  obtain ⟨lead, items, r, -, rfl, hr⟩ := h
  exact ⟨none, .plain c hc lead items, r, by simp,
    by simp [quantifierText, Items.text], hr⟩

theorem ItemsThen.escape
    {e : Char}
    (he : isEscapable e = true)
    (h : ItemsThen ends true s) :
    ItemsThen ends q ('\\' :: e :: s) := by
  obtain ⟨lead, items, r, -, rfl, hr⟩ := h
  exact ⟨none, .escape e he lead items, r, by simp,
    by simp [quantifierText, Items.text], hr⟩

/-- A flag that is off leaves no quantifier in front. -/
theorem ItemsThen.exists_items
    (h : ItemsThen ends false s) :
    ∃ (items : Items) (r : List Char), s = items.text ++ r ∧ ends r := by
  obtain ⟨lead, items, r, hlead, rfl, hr⟩ := h
  cases lead with
  | none => exact ⟨items, r, rfl, hr⟩
  | some quantifier => simp at hlead

theorem ItemsThen.quantifier
    (quantifier : Quantifier)
    (h : ItemsThen ends false s) :
    ItemsThen ends true (quantifier.char :: s) := by
  obtain ⟨items, r, rfl, hr⟩ := h.exists_items
  exact ⟨some quantifier, items, r, by simp, rfl, hr⟩

theorem ItemsThen.group
    (h : ItemsThen (CharThen ')' (ItemsThen ends true)) false s) :
    ItemsThen ends q ('(' :: s) := by
  obtain ⟨inner, _, rfl, _, rfl, lead, items, r, -, rfl, hr⟩ := h.exists_items
  exact ⟨none, .group inner lead items, r, by simp,
    by simp [quantifierText, Items.text], hr⟩

theorem ItemsThen.charClass
    (h : BodyThen (CharThen ']' (ItemsThen ends true)) s) :
    ItemsThen ends q ('[' :: s) := by
  obtain ⟨body, _, rfl, _, rfl, lead, items, r, -, rfl, hr⟩ := h
  exact ⟨none, .charClass body lead items, r, by simp,
    by simp [quantifierText, Items.text], hr⟩

theorem BodyThen.of_ends (h : ends s) : BodyThen ends s :=
  ⟨.nil, s, rfl, h⟩

theorem BodyThen.plain
    {c : Char}
    (hc : isClassPlain c = true)
    (h : BodyThen ends s) :
    BodyThen ends (c :: s) := by
  obtain ⟨body, r, rfl, hr⟩ := h
  exact ⟨.plain c hc body, r, rfl, hr⟩

theorem BodyThen.escape
    {e : Char}
    (he : isEscapable e = true)
    (h : BodyThen ends s) :
    BodyThen ends ('\\' :: e :: s) := by
  obtain ⟨body, r, rfl, hr⟩ := h
  exact ⟨.escape e he body, r, rfl, hr⟩

theorem BodyThen.nested
    (h : BodyThen (CharThen ']' (BodyThen ends)) s) :
    BodyThen ends ('[' :: s) := by
  obtain ⟨inner, _, rfl, _, rfl, body, r, rfl, hr⟩ := h
  exact ⟨.nested inner body, r, by simp [ClassBody.text], hr⟩

end ItemsThen

/-- Outside of classes a list of items comes first, whatever is open. -/
theorem completes_eq_itemsThen
    {stack : List Bracket}
    (h : OutsideClass stack) :
    ∃ ends, ∀ q, Completes stack q = ItemsThen ends q := by
  match stack with
  | [] => exact ⟨_, fun q => rfl⟩
  | .group :: stack => exact ⟨_, fun q => rfl⟩
  | .charClass :: stack => simp [OutsideClass] at h

section Completes

variable {stack : List Bracket} {q : Bool} {s : List Char}

theorem Completes.escape
    {e : Char}
    (he : isEscapable e = true)
    (h : Completes stack true s) :
    Completes stack q ('\\' :: e :: s) := by
  match stack with
  | [] => exact ItemsThen.escape he h
  | .group :: stack => exact ItemsThen.escape he h
  | .charClass :: stack => exact BodyThen.escape he h

theorem Completes.openGroup
    (hstack : OutsideClass stack)
    (h : Completes (.group :: stack) false s) :
    Completes stack q ('(' :: s) := by
  obtain ⟨ends, hends⟩ := completes_eq_itemsThen hstack
  rw [Completes, hends] at h
  rw [hends]
  exact h.group

theorem Completes.openClass
    (h : Completes (.charClass :: stack) false s) :
    Completes stack q ('[' :: s) := by
  match stack with
  | [] => exact ItemsThen.charClass h
  | .group :: stack => exact ItemsThen.charClass h
  | .charClass :: stack => exact BodyThen.nested h

theorem Completes.closeGroup
    (h : Completes stack true s) :
    Completes (.group :: stack) q (')' :: s) :=
  ItemsThen.of_ends ⟨s, rfl, h⟩

theorem Completes.closeClass
    (h : Completes stack true s) :
    Completes (.charClass :: stack) q (']' :: s) :=
  BodyThen.of_ends ⟨s, rfl, h⟩

end Completes

/-! ## What one step can do -/

/-- The steps of the checker over a character other than a backslash. -/
inductive Reads (pos : Nat) (isLast : Bool) : Scan → Char → Scan → Prop
  | plain {stack : List Bracket} {q : Bool} {c : Char} :
      isPlain c = true → OutsideClass stack →
      Reads pos isLast ⟨stack, q⟩ c ⟨stack, true⟩
  | quantifier {stack : List Bracket} (quantifier : Quantifier) :
      OutsideClass stack →
      Reads pos isLast ⟨stack, true⟩ quantifier.char ⟨stack, false⟩
  | openGroup {stack : List Bracket} {q : Bool} :
      OutsideClass stack →
      Reads pos isLast ⟨stack, q⟩ '(' ⟨.group :: stack, false⟩
  | closeGroup {stack : List Bracket} {q : Bool} :
      Reads pos isLast ⟨.group :: stack, q⟩ ')' ⟨stack, true⟩
  | openClass {stack : List Bracket} {q : Bool} :
      Reads pos isLast ⟨stack, q⟩ '[' ⟨.charClass :: stack, false⟩
  | closeClass {stack : List Bracket} {q : Bool} :
      Reads pos isLast ⟨.charClass :: stack, q⟩ ']' ⟨stack, true⟩
  | startAnchor {stack : List Bracket} {q : Bool} :
      pos = 0 → Reads pos isLast ⟨stack, q⟩ '^' ⟨stack, false⟩
  | endAnchor {stack : List Bracket} {q : Bool} :
      isLast = true → OutsideClass stack →
      Reads pos isLast ⟨stack, q⟩ '$' ⟨stack, false⟩
  | classPlain {stack : List Bracket} {q q' : Bool} {c : Char} :
      isClassPlain c = true →
      Reads pos isLast ⟨.charClass :: stack, q⟩ c ⟨.charClass :: stack, q'⟩

/-- Inside of a class a step either meets a bracket of a class or changes the
flag only. -/
theorem reads_of_step_inClass
    {pos : Nat}
    {isLast q : Bool}
    {stack : List Bracket}
    {c : Char}
    {st : Scan}
    (hascii : Text.isAscii c = true)
    (hslash : c ≠ '\\')
    (h : (Scan.mk (.charClass :: stack) q).step pos isLast c = .ok st) :
    Reads pos isLast ⟨.charClass :: stack, q⟩ c st := by
  have hin : (Scan.mk (.charClass :: stack) q).inClass = true := by
    simp [Scan.inClass]
  by_cases hopen : c = '['
  · subst hopen
    simp [Scan.step] at h
    subst h
    exact .openClass
  by_cases hclose : c = ']'
  · subst hclose
    simp [Scan.step] at h
    subst h
    exact .closeClass
  have hc : isClassPlain c = true := by
    simp [isClassPlain, hascii, hslash, hopen, hclose]
  have hst : ∃ q', st = ⟨.charClass :: stack, q'⟩ := by
    simp only [Scan.step, hopen, hclose, hin, if_true, if_false] at h
    split_ifs at h <;>
      simp at h <;>
      exact ⟨_, h.symm⟩
  obtain ⟨q', rfl⟩ := hst
  exact .classPlain hc

/-- Outside of classes every sign has its own step. -/
theorem reads_of_step_outsideClass
    {pos : Nat}
    {isLast q : Bool}
    {stack : List Bracket}
    {c : Char}
    {st : Scan}
    (hstack : OutsideClass stack)
    (hascii : Text.isAscii c = true)
    (hslash : c ≠ '\\')
    (h : (Scan.mk stack q).step pos isLast c = .ok st) :
    Reads pos isLast ⟨stack, q⟩ c st := by
  have hin := inClass_eq_false q hstack
  by_cases hc : c ∈ signs
  · simp only [signs, List.mem_cons, List.not_mem_nil, or_false] at hc
    rcases hc with
      rfl | rfl | rfl | rfl | rfl | rfl | rfl | rfl | rfl | rfl | rfl | rfl | rfl
    all_goals simp [Scan.step, hin] at h
    · exact absurd rfl hslash
    · subst h
      exact .openGroup hstack
    · split at h
      · next stack =>
        simp at h
        subst h
        exact .closeGroup
      · simp at h
    · subst h
      exact .openClass
    · match stack with
      | [] => simp at h
      | .group :: stack => simp at h
      | .charClass :: stack => simp [OutsideClass] at hstack
    · split_ifs at h with hpos
      cases h
      exact .startAnchor hpos
    · split_ifs at h with hlast
      cases h
      exact .endAnchor (by simpa using hlast) hstack
    · cases q <;> simp at h
      subst h
      exact .quantifier .star hstack
    · cases q <;> simp at h
      subst h
      exact .quantifier .plus hstack
    · cases q <;> simp at h
      subst h
      exact .quantifier .opt hstack
  · have hplain : isPlain c = true := by simp [isPlain, hascii, hc]
    simp [signs] at hc
    simp [Scan.step, hc] at h
    subst h
    exact .plain hplain hstack

/-- **Every step of the checker is one of the steps listed.** -/
theorem reads_of_step
    {pos : Nat}
    {isLast : Bool}
    {st st' : Scan}
    {c : Char}
    (hascii : Text.isAscii c = true)
    (hslash : c ≠ '\\')
    (h : st.step pos isLast c = .ok st') :
    Reads pos isLast st c st' := by
  obtain ⟨stack, q⟩ := st
  match stack with
  | .charClass :: stack => exact reads_of_step_inClass hascii hslash h
  | [] =>
      exact reads_of_step_outsideClass (by simp [OutsideClass]) hascii hslash h
  | .group :: stack =>
      exact reads_of_step_outsideClass (by simp [OutsideClass]) hascii hslash h

/-- A step is undone in front of the rest that it leaves. -/
theorem Completes.of_reads
    {pos : Nat}
    {s : List Char}
    {st st' : Scan}
    {c : Char}
    (hread : Reads pos s.isEmpty st c st')
    (hstart : pos = 0 → c ≠ '^')
    (hrest : checkFrom (pos + 1) st' s = .ok ())
    (h : Completes st'.stack st'.quantifiable s) :
    Completes st.stack st.quantifiable (c :: s) := by
  cases hread with
  | plain hc hstack =>
      obtain ⟨ends, hends⟩ := completes_eq_itemsThen hstack
      rw [hends] at h ⊢
      exact h.plain hc
  | quantifier quantifier hstack =>
      obtain ⟨ends, hends⟩ := completes_eq_itemsThen hstack
      rw [hends] at h ⊢
      exact h.quantifier quantifier
  | openGroup hstack => exact h.openGroup hstack
  | closeGroup => exact h.closeGroup
  | openClass => exact h.openClass
  | closeClass => exact h.closeClass
  | startAnchor hpos => exact absurd rfl (hstart hpos)
  | @endAnchor stack q hlast hstack =>
      -- nothing follows, so no bracket is open
      obtain rfl : s = [] := List.isEmpty_iff.mp hlast
      obtain rfl : stack = [] := by
        by_contra hne
        simp [checkFrom, hne] at hrest
      exact ItemsThen.of_ends ⟨true, rfl⟩
  | classPlain hc => exact BodyThen.plain hc h

/-- **What the checker accepts completes the brackets that are open.** -/
theorem completes_of_checkFrom
    (pos : Nat)
    (st : Scan)
    (s : List Char)
    (hstart : pos = 0 → s.head? ≠ some '^')
    (h : checkFrom pos st s = .ok ()) :
    Completes st.stack st.quantifiable s := by
  induction pos, st, s using checkFrom.induct with
  | case1 pos st hempty =>
      obtain ⟨stack, q⟩ := st
      obtain rfl : stack = [] := List.isEmpty_iff.mp hempty
      exact ItemsThen.of_ends ⟨false, rfl⟩
  | case2 pos st hopen => simp [checkFrom, hopen] at h
  | case3 pos st c s hascii =>
      rw [checkFrom.eq_def] at h
      simp [hascii] at h
  | case4 pos st hascii =>
      rw [checkFrom.eq_def] at h
      simp at hascii
      simp [hascii] at h
  | case5 pos st e s he hascii ih =>
      rw [checkFrom_escape pos st.stack st.quantifiable s he] at h
      exact (ih (by omega) h).escape he
  | case6 pos st e s he hascii =>
      rw [checkFrom.eq_def] at h
      simp at hascii
      simp [hascii, he] at h
  | case7 pos st c s hascii hslash st' hstep ih =>
      have hascii : Text.isAscii c = true := by simpa using hascii
      rw [checkFrom_cons pos s hascii hslash hstep] at h
      have hread := reads_of_step hascii hslash hstep
      exact Completes.of_reads hread (by simpa using hstart) h (ih (by omega) h)
  | case8 pos st c s hascii hslash e hstep =>
      rw [checkFrom.eq_def] at h
      simp at hascii
      simp [hascii, hslash, hstep] at h

/-! ## Accepted sources -/

/-- The checker accepts the texts of trees and nothing else. -/
theorem check_eq_ok_iff_source (source : String) :
    check source = .ok () ↔ ∃ t : Source, t.text = source.toList := by
  constructor
  · intro h
    unfold check at h
    by_cases hstart : source.toList.head? = some '^'
    · obtain ⟨s, hs⟩ : ∃ s, source.toList = '^' :: s := by
        cases hlist : source.toList with
        | nil => simp [hlist] at hstart
        | cons c s => exact ⟨s, by simp_all⟩
      rw [hs, checkFrom_startAnchor] at h
      have hc := completes_of_checkFrom 1 ⟨[], false⟩ s (by omega) h
      obtain ⟨items, r, rfl, isEnded, rfl⟩ := hc.exists_items
      exact ⟨⟨true, items, isEnded⟩, by simp [hs, Source.text, optional]⟩
    · have hc :=
        completes_of_checkFrom 0 ⟨[], false⟩ source.toList (fun _ => hstart) h
      obtain ⟨items, r, hs, isEnded, rfl⟩ := hc.exists_items
      exact ⟨⟨false, items, isEnded⟩, by simp [hs, Source.text, optional]⟩
  · rintro ⟨t, ht⟩
    rw [check, ← ht]
    exact checkFrom_source t

/-- **The checker accepts exactly the sources that the grammar derives.** -/
theorem check_eq_ok_iff_derives (source : String) :
    check source = .ok () ↔ Derives .source source.toList := by
  rw [check_eq_ok_iff_source, derives_source_iff]

end Regex
end FilterCompiler
