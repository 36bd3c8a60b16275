import FilterCompiler.Proofs.Ascii
import FilterCompiler.Text.Utf8
import Mathlib.Data.List.Basic
import Mathlib.Tactic.ByContra

/-!
# Bytes of a text

A text is a row of characters, and each of them takes one to four bytes.  An ASCII
character takes one byte below 128, and no byte of another character is below 128.  So a
byte below 128 tells where a character begins (`exists_cut_of_lt`), and an ASCII text is
found among the bytes of a text where it is found in the text (`isPrefix_drop_utf8_iff`).
-/

namespace FilterCompiler
namespace Text

/-- The UTF-8 bytes of a text. -/
def utf8 (s : List Char) : List UInt8 := s.flatMap String.utf8EncodeChar

/-! ## Texts and their bytes -/

theorem bytes_injective : Function.Injective bytes := by
  intro s t h
  rw [bytes, bytes, Array.toList_inj, String.toUTF8_eq_toByteArray,
    String.toUTF8_eq_toByteArray] at h
  exact String.toByteArray_inj.mp (ByteArray.ext h)

theorem bytes_eq_utf8
    (s : String) :
    bytes s = utf8 s.toList := by
  rw [bytes, String.toUTF8_eq_toByteArray, ← String.utf8Encode_toList, List.utf8Encode,
    List.data_toByteArray, utf8]

@[simp] theorem utf8_nil : utf8 [] = [] := rfl

theorem utf8_cons
    (c : Char)
    (s : List Char) :
    utf8 (c :: s) = String.utf8EncodeChar c ++ utf8 s := by
  rfl

@[simp] theorem utf8_append
    (s t : List Char) :
    utf8 (s ++ t) = utf8 s ++ utf8 t :=
  List.flatMap_append

@[simp] theorem length_utf8
    (s : List Char) :
    (utf8 s).length = byteLength s := by
  induction s with
  | nil => rfl
  | cons c s ih => rw [utf8_cons, List.length_append, String.length_utf8EncodeChar, ih, byteLength]

theorem eq_nil_of_byteLength_eq_zero
    {s : List Char}
    (h : byteLength s = 0) :
    s = [] := by
  cases s with
  | nil => rfl
  | cons c s =>
      have hpos := c.utf8Size_pos
      rw [byteLength] at h
      omega

/-- Two cuts of a text at the same byte are the same. -/
theorem append_inj_of_byteLength
    {s s' t t' : List Char}
    (h : s ++ t = s' ++ t')
    (hlength : byteLength s = byteLength s') :
    s = s' ∧ t = t' := by
  rcases List.append_eq_append_iff.mp h with ⟨more, rfl, rfl⟩ | ⟨more, rfl, rfl⟩
  all_goals
    rw [byteLength_append] at hlength
    obtain rfl := eq_nil_of_byteLength_eq_zero (s := more) (by omega)
    simp

/-! ## ASCII characters -/

theorem ne_of_isAscii
    {c d : Char}
    (hc : isAscii c = false)
    (hd : isAscii d = true) :
    c ≠ d := by
  rintro rfl
  rw [hd] at hc
  cases hc

/-- An ASCII character takes one byte. -/
theorem utf8Size_of_isAscii
    {c : Char}
    (hc : isAscii c = true) :
    c.utf8Size = 1 := by
  rw [Char.utf8Size_eq_one_iff]
  simp only [isAscii, decide_eq_true_eq, Char.toNat] at hc
  rw [UInt32.le_iff_toNat_le]
  exact Nat.le_of_lt_succ hc

/-- Any other character takes more. -/
theorem isAscii_of_utf8Size
    {c : Char}
    (hc : c.utf8Size = 1) :
    isAscii c = true := by
  rw [Char.utf8Size_eq_one_iff, UInt32.le_iff_toNat_le] at hc
  exact decide_eq_true (Nat.lt_succ_of_le hc)

/-- An ASCII text takes one byte for each character. -/
theorem byteLength_of_isAscii
    {s : List Char}
    (h : ∀ c ∈ s, isAscii c = true) :
    byteLength s = s.length := by
  induction s with
  | nil => rfl
  | cons c s ih =>
      rw [List.forall_mem_cons] at h
      rw [byteLength, utf8Size_of_isAscii h.1, ih h.2, List.length_cons, Nat.add_comm]

theorem utf8EncodeChar_of_lt
    {c : Char}
    (h : c.toNat < 128) :
    String.utf8EncodeChar c = [UInt8.ofNat c.toNat] := by
  have hval : c.val.toNat ≤ 0x7f := Nat.le_of_lt_succ h
  rw [String.utf8EncodeChar, if_pos hval]
  rfl

/-- No byte below 128 is a part of a character from 128 on. -/
theorem le_of_mem_utf8EncodeChar
    {c : Char}
    (h : 128 ≤ c.toNat) :
    ∀ b ∈ String.utf8EncodeChar c, 128 ≤ b.toNat := by
  have hbyte : ∀ n, 128 ≤ n → n < 256 → 128 ≤ (UInt8.ofNat n).toNat := by
    intro n hlow hhigh
    rwa [UInt8.toNat_ofNat_of_lt' hhigh]
  have hval : ¬ c.val.toNat ≤ 0x7f := Nat.not_le.mpr h
  rw [String.utf8EncodeChar, if_neg hval]
  split
  · simp only [List.mem_cons, List.not_mem_nil, or_false, forall_eq_or_imp, forall_eq]
    exact ⟨hbyte _ (by omega) (by omega), hbyte _ (by omega) (by omega)⟩
  split <;> simp only [List.mem_cons, List.not_mem_nil, or_false, forall_eq_or_imp, forall_eq]
  · exact ⟨hbyte _ (by omega) (by omega), hbyte _ (by omega) (by omega),
      hbyte _ (by omega) (by omega)⟩
  · exact ⟨hbyte _ (by omega) (by omega), hbyte _ (by omega) (by omega),
      hbyte _ (by omega) (by omega), hbyte _ (by omega) (by omega)⟩

/-! ## Bytes as characters -/

/-- The bytes of a text, each as the character of that number. -/
def codes (s : List Char) : List Char := (utf8 s).map Char.ofUInt8

@[simp] theorem codes_nil : codes [] = [] := rfl

@[simp] theorem codes_append
    (s t : List Char) :
    codes (s ++ t) = codes s ++ codes t := by
  rw [codes, utf8_append, List.map_append]
  rfl

theorem codes_cons
    (c : Char)
    (s : List Char) :
    codes (c :: s) = codes [c] ++ codes s :=
  codes_append [c] s

@[simp] theorem length_codes
    (s : List Char) :
    (codes s).length = byteLength s := by
  rw [codes, List.length_map, length_utf8]

@[simp] theorem toNat_ofUInt8
    (b : UInt8) :
    (Char.ofUInt8 b).toNat = b.toNat :=
  UInt8.toNat_toUInt32 b

theorem ofUInt8_injective : Function.Injective Char.ofUInt8 := by
  intro a b h
  have hnat := congrArg Char.toNat h
  rw [toNat_ofUInt8, toNat_ofUInt8] at hnat
  exact UInt8.toNat_inj.mp hnat

/-- An ASCII character is its own code. -/
theorem codes_cons_of_isAscii
    {c : Char}
    (hc : isAscii c)
    (s : List Char) :
    codes (c :: s) = c :: codes s := by
  have hlt : c.toNat < 128 := of_decide_eq_true hc
  have hbyte : (UInt8.ofNat c.toNat).toNat = c.toNat :=
    UInt8.toNat_ofNat_of_lt' (Nat.lt_trans hlt (by decide))
  have hcode : Char.ofUInt8 (UInt8.ofNat c.toNat) = c :=
    Char.toNat_inj.mp ((toNat_ofUInt8 _).trans hbyte)
  rw [codes, utf8_cons, utf8EncodeChar_of_lt hlt, List.singleton_append, List.map_cons, hcode]
  rfl

theorem codes_of_allAscii
    {s : List Char}
    (hascii : AllAscii s) :
    codes s = s := by
  induction s with
  | nil => rfl
  | cons c s ih =>
      rw [AllAscii, List.forall_mem_cons] at hascii
      rw [codes_cons_of_isAscii hascii.1, ih hascii.2]

/-- Any other character has codes beyond ASCII only. -/
theorem not_isAscii_of_mem_codes
    {c : Char}
    (hc : ¬ isAscii c) :
    ∀ d ∈ codes [c], ¬ isAscii d := by
  intro d hd
  have hle : 128 ≤ c.toNat := Nat.le_of_not_lt fun hlt => hc (decide_eq_true hlt)
  rw [codes, utf8_cons, utf8_nil, List.append_nil, List.mem_map] at hd
  obtain ⟨b, hb, rfl⟩ := hd
  have hbyte := le_of_mem_utf8EncodeChar hle b hb
  rw [isAscii, toNat_ofUInt8, decide_eq_true_eq]
  exact Nat.not_lt.mpr hbyte

/-! ## ASCII texts among bytes -/

/-- A byte below 128 tells where a character begins. -/
theorem exists_cut_of_getElem?_codes
    {s : List Char}
    {i : Nat}
    {c : Char}
    (h : (codes s)[i]? = some c)
    (hc : isAscii c) :
    ∃ before after, s = before ++ c :: after ∧ byteLength before = i := by
  induction s generalizing i with
  | nil => cases h
  | cons d s ih =>
      rw [codes_cons] at h
      by_cases hi : i < (codes [d]).length
      · rw [List.getElem?_append_left hi] at h
        have hd : isAscii d := by
          by_contra hd
          exact not_isAscii_of_mem_codes hd c (List.mem_of_getElem? h) hc
        rw [codes_cons_of_isAscii hd] at h hi
        obtain rfl : i = 0 := by
          rw [codes_nil, List.length_singleton] at hi
          omega
        obtain rfl : d = c := by simpa using h
        exact ⟨[], s, rfl, rfl⟩
      · rw [List.getElem?_append_right (Nat.le_of_not_lt hi)] at h
        obtain ⟨before, after, rfl, hlength⟩ := ih h
        refine ⟨d :: before, after, rfl, ?_⟩
        rw [length_codes, byteLength, byteLength] at hi hlength
        rw [byteLength]
        omega

/-- The bytes after some characters are those of the rest. -/
@[simp] theorem drop_codes_append
    (before after : List Char) :
    (codes (before ++ after)).drop (byteLength before) = codes after := by
  rw [codes_append, ← length_codes, List.drop_left]

theorem codes_singleton_ne_nil
    (c : Char) :
    codes [c] ≠ [] := by
  rw [← List.length_pos_iff, length_codes, byteLength, byteLength]
  exact c.utf8Size_pos

/-- An ASCII text begins the bytes of a text if it begins the text. -/
theorem isPrefix_codes_iff
    {needle : List Char}
    (hascii : AllAscii needle)
    (s : List Char) :
    needle <+: codes s ↔ needle <+: s := by
  induction needle generalizing s with
  | nil => simp
  | cons c needle ih =>
      rw [AllAscii, List.forall_mem_cons] at hascii
      cases s with
      | nil => simp
      | cons d s =>
          by_cases hd : isAscii d
          · rw [codes_cons_of_isAscii hd, List.cons_prefix_cons, List.cons_prefix_cons,
              ih hascii.2]
          · obtain ⟨e, rest, hcodes⟩ := List.exists_cons_of_ne_nil (codes_singleton_ne_nil d)
            have he : ¬ isAscii e :=
              not_isAscii_of_mem_codes hd e (hcodes ▸ List.mem_cons_self)
            rw [codes_cons, hcodes, List.cons_append, List.cons_prefix_cons,
              List.cons_prefix_cons]
            exact iff_of_false (fun h => he (h.1 ▸ hascii.1)) fun h => hd (h.1 ▸ hascii.1)

/-- An ASCII text stands at a byte of a text if it stands behind a part of the text that
takes so many bytes. -/
theorem isPrefix_drop_codes_iff
    {needle : List Char}
    (hne : needle ≠ [])
    (hascii : AllAscii needle)
    {s : List Char}
    {i : Nat} :
    needle <+: (codes s).drop i ↔
      ∃ before after, s = before ++ (needle ++ after) ∧ byteLength before = i := by
  constructor
  · intro h
    obtain ⟨c, rest, rfl⟩ := List.exists_cons_of_ne_nil hne
    have hc : (codes s)[i]? = some c := by
      obtain ⟨after, hafter⟩ := h
      rw [← List.head?_drop, ← hafter]
      rfl
    obtain ⟨before, tail, rfl, rfl⟩ := exists_cut_of_getElem?_codes hc (hascii c List.mem_cons_self)
    rw [drop_codes_append, isPrefix_codes_iff hascii] at h
    obtain ⟨after, hafter⟩ := h
    exact ⟨before, after, congrArg (before ++ ·) hafter.symm, rfl⟩
  · rintro ⟨before, after, rfl, rfl⟩
    rw [drop_codes_append, isPrefix_codes_iff hascii]
    exact List.prefix_append needle after

/-- **The bytes of an ASCII text are found where the text is.** -/
theorem isPrefix_drop_utf8_iff
    {needle : List Char}
    (hne : needle ≠ [])
    (hascii : AllAscii needle)
    {s : List Char}
    {i : Nat} :
    utf8 needle <+: (utf8 s).drop i ↔
      ∃ before after, s = before ++ (needle ++ after) ∧ byteLength before = i := by
  rw [← isPrefix_drop_codes_iff hne hascii, codes, ← List.map_drop]
  constructor
  · intro h
    have hmap := h.map Char.ofUInt8
    rwa [← codes, codes_of_allAscii hascii] at hmap
  · intro h
    obtain ⟨bytes, hbytes, heq⟩ := List.prefix_map_iff.mp h
    rw [← codes_of_allAscii hascii, codes] at heq
    rwa [List.map_injective_iff.mpr ofUInt8_injective heq]

end Text
end FilterCompiler
