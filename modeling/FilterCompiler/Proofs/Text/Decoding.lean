import FilterCompiler.Proofs.Text.Bytes

/-!
# Bytes of a text are read as the text

The reader of bytes puts a filler where it finds no character.  The bytes of a character
are one to four, the first tells how many follow and in which range the second one is,
and each of the others adds six bits.  So the bytes of a text are read as the text, and
no filler is needed (`decodeLossy_utf8`).
-/

namespace FilterCompiler
namespace Text

variable {filler done : List Char} {b : UInt8} {bytes : List UInt8}

/-! ## One byte -/

theorem decodeFrom_ascii
    (hb : b < 0x80) :
    decodeFrom filler done none (b :: bytes) =
      decodeFrom filler (Char.ofNat b.toNat :: done) none bytes := by
  rw [decodeFrom]
  exact if_pos hb

theorem decodeFrom_lead
    {low high : UInt8}
    {missing : Nat}
    (hb : ¬ b < 0x80)
    (hfollowers : followers? b = some (low, high, missing)) :
    decodeFrom filler done none (b :: bytes) =
      decodeFrom filler done (some { bits := leadBits b missing, missing, low, high }) bytes := by
  rw [decodeFrom]
  dsimp only
  rw [if_neg hb, hfollowers]

theorem decodeFrom_next
    {bits missing : Nat}
    {low high : UInt8}
    (hb : low ≤ b ∧ b ≤ high)
    (hmissing : missing ≠ 1) :
    decodeFrom filler done (some { bits, missing, low, high }) (b :: bytes) =
      decodeFrom filler done
        (some { bits := bits * 64 + b.toNat % 64, missing := missing - 1,
                low := 0x80, high := 0xBF }) bytes := by
  rw [decodeFrom]
  dsimp only
  rw [if_pos hb, if_neg hmissing]

theorem decodeFrom_last
    {bits : Nat}
    {low high : UInt8}
    (hb : low ≤ b ∧ b ≤ high) :
    decodeFrom filler done (some { bits, missing := 1, low, high }) (b :: bytes) =
      decodeFrom filler (Char.ofNat (bits * 64 + b.toNat % 64) :: done) none bytes := by
  rw [decodeFrom]
  dsimp only
  rw [if_pos hb, if_pos rfl]

/-! ## Bytes as numbers -/

theorem toNat_ofNat_of_lt
    {n : Nat}
    (h : n < 256) :
    (UInt8.ofNat n).toNat = n :=
  UInt8.toNat_ofNat_of_lt' h

theorem followers?_eq
    (b : UInt8) :
    followers? b =
      if b.toNat < 194 then none
      else if b.toNat < 224 then some (0x80, 0xBF, 1)
      else if b.toNat = 224 then some (0xA0, 0xBF, 2)
      else if b.toNat = 237 then some (0x80, 0x9F, 2)
      else if b.toNat < 240 then some (0x80, 0xBF, 2)
      else if b.toNat = 240 then some (0x90, 0xBF, 3)
      else if b.toNat < 244 then some (0x80, 0xBF, 3)
      else if b.toNat = 244 then some (0x80, 0x8F, 3)
      else none := by
  simp only [followers?, UInt8.lt_iff_toNat_lt, ← UInt8.toNat_inj]
  rfl

theorem not_lt_of_le_toNat
    (h : 128 ≤ b.toNat) :
    ¬ b < 0x80 := by
  rw [UInt8.lt_iff_toNat_lt]
  exact Nat.not_lt.mpr h

theorem mem_range_iff
    {low high : UInt8} :
    low ≤ b ∧ b ≤ high ↔ low.toNat ≤ b.toNat ∧ b.toNat ≤ high.toNat := by
  rw [UInt8.le_iff_toNat_le, UInt8.le_iff_toNat_le]

/-- A byte that adds six bits. -/
def sixBits (n : Nat) : UInt8 := UInt8.ofNat (n % 64 + 128)

theorem toNat_sixBits
    (n : Nat) :
    (sixBits n).toNat = n % 64 + 128 :=
  toNat_ofNat_of_lt (by omega)

theorem toNat_sixBits_mod
    (n : Nat) :
    (sixBits n).toNat % 64 = n % 64 := by
  rw [toNat_sixBits]
  omega

theorem mem_range_sixBits
    (n : Nat) :
    0x80 ≤ sixBits n ∧ sixBits n ≤ 0xBF := by
  rw [mem_range_iff, toNat_sixBits]
  constructor
  · exact Nat.le_add_left 128 _
  · change n % 64 + 128 ≤ 191
    omega

/-! ## One character -/

section Characters

variable {v : Nat}

/-- Two bytes of eleven bits. -/
theorem decodeFrom_two
    (hlow : 128 ≤ v)
    (hhigh : v ≤ 2047) :
    decodeFrom filler done none (UInt8.ofNat (v / 64 % 32 + 192) :: sixBits v :: bytes) =
      decodeFrom filler (Char.ofNat v :: done) none bytes := by
  have hlead : (UInt8.ofNat (v / 64 % 32 + 192)).toNat = v / 64 % 32 + 192 :=
    toNat_ofNat_of_lt (by omega)
  have hfollowers : followers? (UInt8.ofNat (v / 64 % 32 + 192)) = some (0x80, 0xBF, 1) := by
    rw [followers?_eq, hlead, if_neg (by omega), if_pos (by omega)]
  have hbits : leadBits (UInt8.ofNat (v / 64 % 32 + 192)) 1 = v / 64 := by
    rw [leadBits, hlead]
    change (v / 64 % 32 + 192) % 32 = v / 64
    omega
  rw [decodeFrom_lead (not_lt_of_le_toNat (by omega)) hfollowers,
    decodeFrom_last (mem_range_sixBits v), hbits, toNat_sixBits_mod, Nat.div_add_mod']

/-- Three bytes of sixteen bits. -/
theorem decodeFrom_three
    (hlow : 2048 ≤ v)
    (hhigh : v ≤ 65535)
    (hvalid : v < 55296 ∨ 57343 < v) :
    decodeFrom filler done none
        (UInt8.ofNat (v / 4096 % 16 + 224) :: sixBits (v / 64) :: sixBits v :: bytes) =
      decodeFrom filler (Char.ofNat v :: done) none bytes := by
  have hlead : (UInt8.ofNat (v / 4096 % 16 + 224)).toNat = v / 4096 % 16 + 224 :=
    toNat_ofNat_of_lt (by omega)
  obtain ⟨low, high, hfollowers, hsecond⟩ : ∃ low high,
      followers? (UInt8.ofNat (v / 4096 % 16 + 224)) = some (low, high, 2) ∧
        low ≤ sixBits (v / 64) ∧ sixBits (v / 64) ≤ high := by
    rw [followers?_eq, hlead, if_neg (by omega), if_neg (by omega)]
    split
    · refine ⟨_, _, rfl, mem_range_iff.mpr ?_⟩
      rw [toNat_sixBits]
      change 160 ≤ _ ∧ _ ≤ 191
      omega
    split
    · refine ⟨_, _, rfl, mem_range_iff.mpr ?_⟩
      rw [toNat_sixBits]
      change 128 ≤ _ ∧ _ ≤ 159
      omega
    · rw [if_pos (by omega)]
      exact ⟨_, _, rfl, mem_range_sixBits _⟩
  have hbits : leadBits (UInt8.ofNat (v / 4096 % 16 + 224)) 2 = v / 4096 := by
    rw [leadBits, hlead]
    change (v / 4096 % 16 + 224) % 16 = v / 4096
    omega
  rw [decodeFrom_lead (not_lt_of_le_toNat (by omega)) hfollowers, decodeFrom_next hsecond (by decide),
    decodeFrom_last (mem_range_sixBits v), hbits, toNat_sixBits_mod, toNat_sixBits_mod]
  congr 3
  omega

/-- Four bytes of twenty-one bits. -/
theorem decodeFrom_four
    (hlow : 65536 ≤ v)
    (hhigh : v < 1114112) :
    decodeFrom filler done none
        (UInt8.ofNat (v / 262144 % 8 + 240) :: sixBits (v / 4096) :: sixBits (v / 64) ::
          sixBits v :: bytes) =
      decodeFrom filler (Char.ofNat v :: done) none bytes := by
  have hlead : (UInt8.ofNat (v / 262144 % 8 + 240)).toNat = v / 262144 % 8 + 240 :=
    toNat_ofNat_of_lt (by omega)
  obtain ⟨low, high, hfollowers, hsecond⟩ : ∃ low high,
      followers? (UInt8.ofNat (v / 262144 % 8 + 240)) = some (low, high, 3) ∧
        low ≤ sixBits (v / 4096) ∧ sixBits (v / 4096) ≤ high := by
    rw [followers?_eq, hlead, if_neg (by omega), if_neg (by omega), if_neg (by omega),
      if_neg (by omega), if_neg (by omega)]
    split
    · refine ⟨_, _, rfl, mem_range_iff.mpr ?_⟩
      rw [toNat_sixBits]
      change 144 ≤ _ ∧ _ ≤ 191
      omega
    split
    · exact ⟨_, _, rfl, mem_range_sixBits _⟩
    · rw [if_pos (by omega)]
      refine ⟨_, _, rfl, mem_range_iff.mpr ?_⟩
      rw [toNat_sixBits]
      change 128 ≤ _ ∧ _ ≤ 143
      omega
  have hbits : leadBits (UInt8.ofNat (v / 262144 % 8 + 240)) 3 = v / 262144 := by
    rw [leadBits, hlead]
    change (v / 262144 % 8 + 240) % 8 = v / 262144
    omega
  rw [decodeFrom_lead (not_lt_of_le_toNat (by omega)) hfollowers, decodeFrom_next hsecond (by decide),
    decodeFrom_next (mem_range_sixBits (v / 64)) (by decide),
    decodeFrom_last (mem_range_sixBits v), hbits, toNat_sixBits_mod, toNat_sixBits_mod,
    toNat_sixBits_mod]
  congr 3
  omega

end Characters

/-- **The bytes of a character are read as the character.** -/
theorem decodeFrom_utf8EncodeChar
    (c : Char) :
    decodeFrom filler done none (String.utf8EncodeChar c ++ bytes) =
      decodeFrom filler (c :: done) none bytes := by
  have hvalid : c.toNat < 55296 ∨ 57343 < c.toNat ∧ c.toNat < 1114112 := c.valid
  have hchar : Char.ofNat c.toNat = c := Char.ofNat_toNat c
  have hval : c.val.toNat = c.toNat := rfl
  rw [String.utf8EncodeChar, hval]
  split
  · next hone =>
      have hbyte : (UInt8.ofNat c.toNat).toNat = c.toNat := toNat_ofNat_of_lt (by omega)
      have hlt : UInt8.ofNat c.toNat < 0x80 := by
        rw [UInt8.lt_iff_toNat_lt, hbyte]
        exact Nat.lt_succ_of_le hone
      refine (decodeFrom_ascii hlt).trans ?_
      rw [hbyte, hchar]
      rfl
  split
  · next hone htwo =>
      refine (decodeFrom_two (v := c.toNat) (by omega) htwo).trans ?_
      rw [hchar]
      rfl
  split
  · next hone htwo hthree =>
      refine (decodeFrom_three (v := c.toNat) (by omega) hthree (by omega)).trans ?_
      rw [hchar]
      rfl
  · next hone htwo hthree =>
      refine (decodeFrom_four (v := c.toNat) (by omega) (by omega)).trans ?_
      rw [hchar]
      rfl

/-! ## Texts -/

theorem decodeFrom_utf8
    (filler done s : List Char) :
    decodeFrom filler done none (utf8 s) = done.reverse ++ s := by
  induction s generalizing done with
  | nil => rw [utf8_nil, decodeFrom, List.append_nil]; rfl
  | cons c s ih =>
      rw [utf8_cons, decodeFrom_utf8EncodeChar, ih, List.reverse_cons, List.append_assoc]
      rfl

/-- **The bytes of a text are read as the text.** -/
theorem decodeLossy_utf8
    (s : List Char) :
    decodeLossy (utf8 s) = String.ofList s := by
  rw [decodeLossy, decodeWith, decodeFrom_utf8]
  rfl

end Text
end FilterCompiler
