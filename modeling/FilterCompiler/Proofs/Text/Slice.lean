import FilterCompiler.Proofs.Text.Bytes

/-!
# Slices between bytes

A place in a text may be told by the number of bytes before it.  A text can be cut there
only if it is that long and no character is torn apart (`cutAt?_eq_some_iff`), and a
slice runs from one such place to a later one (`slice?_eq_some_iff`).  Behind every
character that is found in the text there is such a place.

A predicate that does not tell characters beyond ASCII apart holds of the bytes of a text
where it holds of the characters (`all_codes`, `any_head?_codes`, `any_getLast?_codes`).
-/

namespace FilterCompiler
namespace Text

variable {s t before middle after : List Char} {c : Char} {i j : Nat}

/-! ## Places -/

/-- What stands before and after byte `i`, if the text can be cut there. -/
def cutAt? : Nat → List Char → Option (List Char × List Char)
  | 0, s => some ([], s)
  | _ + 1, [] => none
  | i + 1, c :: s =>
      if c.utf8Size ≤ i + 1 then
        (cutAt? (i + 1 - c.utf8Size) s).map fun p => (c :: p.1, p.2)
      else none

/-- **A text can be cut where a part of it ends.** -/
theorem cutAt?_eq_some_iff :
    cutAt? i s = some (before, after) ↔ s = before ++ after ∧ byteLength before = i := by
  induction s generalizing i before with
  | nil =>
      cases i with
      | zero =>
          rw [cutAt?, Option.some.injEq, Prod.mk.injEq, List.nil_eq_append_iff]
          constructor
          · rintro ⟨rfl, rfl⟩
            exact ⟨⟨rfl, rfl⟩, rfl⟩
          · rintro ⟨⟨rfl, rfl⟩, -⟩
            exact ⟨rfl, rfl⟩
      | succ i =>
          rw [cutAt?, List.nil_eq_append_iff]
          constructor
          · rintro ⟨⟩
          · rintro ⟨⟨rfl, -⟩, ⟨⟩⟩
  | cons c s ih =>
      have hc := c.utf8Size_pos
      cases i with
      | zero =>
          rw [cutAt?, Option.some.injEq, Prod.mk.injEq]
          constructor
          · rintro ⟨rfl, rfl⟩
            exact ⟨rfl, rfl⟩
          · rintro ⟨hs, hlength⟩
            obtain rfl := eq_nil_of_byteLength_eq_zero hlength
            exact ⟨rfl, hs⟩
      | succ i =>
          rw [cutAt?, Option.ite_none_right_eq_some, Option.map_eq_some_iff]
          constructor
          · rintro ⟨hle, ⟨first, rest⟩, hcut, hp⟩
            cases hp
            obtain ⟨rfl, hlength⟩ := ih.mp hcut
            refine ⟨rfl, ?_⟩
            rw [byteLength, hlength]
            omega
          · rintro ⟨hs, hlength⟩
            cases before with
            | nil => cases hlength
            | cons d before =>
                obtain ⟨rfl, rfl⟩ := List.cons.inj hs
                rw [byteLength] at hlength
                exact ⟨by omega, (before, after), ih.mpr ⟨rfl, by omega⟩, rfl⟩

/-- What stands before byte `i`. -/
def sliceTo? (i : Nat) (s : List Char) : Option (List Char) := (cutAt? i s).map Prod.fst

/-- What stands from byte `i` on. -/
def sliceFrom? (i : Nat) (s : List Char) : Option (List Char) := (cutAt? i s).map Prod.snd

/-- What stands between byte `i` and byte `j`. -/
def slice? (i j : Nat) (s : List Char) : Option (List Char) :=
  (sliceTo? j s).bind (sliceFrom? i)

theorem sliceTo?_eq_some_iff :
    sliceTo? i s = some before ↔ ∃ after, s = before ++ after ∧ byteLength before = i := by
  simp only [sliceTo?, Option.map_eq_some_iff, Prod.exists, cutAt?_eq_some_iff]
  constructor
  · rintro ⟨_, after, hs, rfl⟩
    exact ⟨after, hs⟩
  · rintro ⟨after, hs⟩
    exact ⟨before, after, hs, rfl⟩

theorem sliceFrom?_eq_some_iff :
    sliceFrom? i s = some after ↔ ∃ before, s = before ++ after ∧ byteLength before = i := by
  simp only [sliceFrom?, Option.map_eq_some_iff, Prod.exists, cutAt?_eq_some_iff]
  constructor
  · rintro ⟨before, _, hs, rfl⟩
    exact ⟨before, hs⟩
  · rintro ⟨before, hs⟩
    exact ⟨before, after, hs, rfl⟩

/-- **A slice is a part of the text between two places in it.** -/
theorem slice?_eq_some_iff :
    slice? i j s = some middle ↔
      ∃ before after, s = before ++ (middle ++ after) ∧
        byteLength before = i ∧ byteLength (before ++ middle) = j := by
  rw [slice?, Option.bind_eq_some_iff]
  simp only [sliceTo?_eq_some_iff, sliceFrom?_eq_some_iff]
  constructor
  · rintro ⟨_, ⟨after, rfl, hj⟩, before, rfl, hi⟩
    exact ⟨before, after, List.append_assoc _ _ _, hi, hj⟩
  · rintro ⟨before, after, rfl, hi, hj⟩
    exact ⟨before ++ middle, ⟨after, (List.append_assoc _ _ _).symm, hj⟩, before, rfl, hi⟩

/-! ## Where a character is found -/

theorem byteLength_concat
    (s : List Char)
    (hc : isAscii c) :
    byteLength (s ++ [c]) = byteLength s + 1 := by
  rw [byteLength_append, byteLength, byteLength, utf8Size_of_isAscii hc]

/-- The byte at which the first `c` begins. -/
def firstByte? (c : Char) (s : List Char) : Option Nat :=
  (breakAt? c s).map fun p => byteLength p.1

/-- The byte at which the last `c` begins. -/
def lastByte? (c : Char) (s : List Char) : Option Nat :=
  (breakAtLast? c s).map fun p => byteLength p.1

/-! ## Bytes by number -/

/-- The difference of two numbers, if it is none below zero. -/
def sub? (m n : Nat) : Option Nat := if n ≤ m then some (m - n) else none

theorem sub?_of_le
    {m n : Nat}
    (h : n ≤ m) :
    sub? m n = some (m - n) :=
  if_pos h

/-- The bytes from number `i` up to number `j`. -/
def byteSlice? (i j : Nat) (bytes : List Char) : Option (List Char) :=
  if i ≤ j ∧ j ≤ bytes.length then some ((bytes.take j).drop i) else none

theorem byteSlice?_codes
    (before middle after : List Char) :
    byteSlice? (byteLength before) (byteLength (before ++ middle))
      (codes (before ++ (middle ++ after))) = some (codes middle) := by
  rw [byteSlice?, if_pos, codes_append, codes_append, ← length_codes, ← length_codes,
    ← List.append_assoc, codes_append, List.take_left, List.drop_left]
  rw [length_codes, byteLength_append, byteLength_append, byteLength_append]
  omega

/-! ## Characters beyond ASCII -/

/-- The predicate does not tell characters beyond ASCII apart. -/
def IgnoresForeign (p : Char → Bool) : Prop :=
  ∀ c d, ¬ isAscii c → ¬ isAscii d → p c = p d

theorem ignoresForeign_of_isAscii
    {p : Char → Bool}
    (h : ∀ c, p c → isAscii c) :
    IgnoresForeign p := by
  have hfalse : ∀ c, ¬ isAscii c → p c = false := fun c hc =>
    Bool.eq_false_iff.mpr fun hp => hc (h c hp)
  exact fun c d hc hd => (hfalse c hc).trans (hfalse d hd).symm

section IgnoresForeign

variable {p : Char → Bool} (hp : IgnoresForeign p)
include hp

/-- The bytes of a character are like the character. -/
theorem eq_of_mem_codes
    (c : Char) :
    ∀ d ∈ codes [c], p d = p c := by
  intro d hd
  by_cases hc : isAscii c
  · rw [codes_cons_of_isAscii hc, codes_nil, List.mem_singleton] at hd
    rw [hd]
  · exact hp d c (not_isAscii_of_mem_codes hc d hd) hc

theorem all_codes
    (s : List Char) :
    (codes s).all p = s.all p := by
  induction s with
  | nil => rfl
  | cons c s ih =>
      obtain ⟨d, rest, hcodes⟩ := List.exists_cons_of_ne_nil (codes_singleton_ne_nil c)
      have hall : (codes [c]).all p = p c := by
        have hlike := eq_of_mem_codes hp c
        rw [hcodes, List.forall_mem_cons] at hlike
        rw [hcodes, List.all_cons, hlike.1, Bool.and_eq_left_iff_imp, List.all_eq_true]
        exact fun hc e he => (hlike.2 e he).trans hc
      rw [codes_cons, List.all_append, hall, ih, List.all_cons]

theorem exists_head?_codes
    (c : Char)
    (s : List Char) :
    ∃ b, (codes (c :: s)).head? = some b ∧ p b = p c := by
  obtain ⟨b, rest, hcodes⟩ := List.exists_cons_of_ne_nil (codes_singleton_ne_nil c)
  refine ⟨b, ?_, eq_of_mem_codes hp c b (hcodes ▸ List.mem_cons_self)⟩
  rw [codes_cons, hcodes]
  rfl

theorem any_head?_codes
    (s : List Char) :
    (codes s).head?.any p = s.head?.any p := by
  cases s with
  | nil => rfl
  | cons c s =>
      obtain ⟨b, hhead, hb⟩ := exists_head?_codes hp c s
      rw [hhead, List.head?_cons, Option.any_some, Option.any_some, hb]

theorem any_getLast?_codes
    (s : List Char) :
    (codes s).getLast?.any p = s.getLast?.any p := by
  rcases List.eq_nil_or_concat s with rfl | ⟨s, c, rfl⟩
  · rfl
  · have hne := codes_singleton_ne_nil c
    have hlast := eq_of_mem_codes hp c _ (List.getLast_mem hne)
    rw [List.concat_eq_append, codes_append, List.getLast?_append_of_ne_nil _ hne,
      List.getLast?_eq_some_getLast hne, List.getLast?_concat, Option.any_some, Option.any_some,
      hlast]

end IgnoresForeign

theorem any_beq_iff
    {o : Option Char} :
    o.any (· == c) ↔ o = some c := by
  cases o <;> simp

/-- An ASCII character is the first byte of a text if it is the first character. -/
theorem head?_codes_eq_some_iff
    (hc : isAscii c) :
    (codes s).head? = some c ↔ s.head? = some c := by
  have hignores : IgnoresForeign (· == c) :=
    ignoresForeign_of_isAscii fun d hd => (beq_iff_eq.mp hd).symm ▸ hc
  rw [← any_beq_iff, ← any_beq_iff, any_head?_codes hignores]

/-- An ASCII character is the last byte of a text if it is the last character. -/
theorem getLast?_codes_eq_some_iff
    (hc : isAscii c) :
    (codes s).getLast? = some c ↔ s.getLast? = some c := by
  have hignores : IgnoresForeign (· == c) :=
    ignoresForeign_of_isAscii fun d hd => (beq_iff_eq.mp hd).symm ▸ hc
  rw [← any_beq_iff, ← any_beq_iff, any_getLast?_codes hignores]

end Text
end FilterCompiler
