import FilterCompiler.Proofs.Json.RoundTrip
import FilterCompiler.Proofs.Text.Bytes
import FilterCompiler.Store.Fingerprint
import Mathlib.Algebra.Group.Nat.Defs
import Mathlib.Logic.Function.Basic

/-!
# What a fingerprint tells

The byte stream of a conversion has no marks between its parts, but the parts can be
told: no byte of a version's name is that of a flag, numbers have eight bytes, and the
line feed at the end of a line is in no line.  So the stream determines all that it is
made of (`stream_inj`), where an absent size and the greatest one are written alike.  A
fingerprint is determined by its sixteen digits (`text_injective`).
-/

namespace FilterCompiler

/-! ## Bytes of a text -/

namespace Text

/-- The byte of a line feed is that of a line feed only. -/
theorem mem_of_mem_bytes
    {s : String}
    (h : 0x0A ∈ bytes s) :
    '\n' ∈ s.toList := by
  rw [bytes_eq_utf8, utf8, List.mem_flatMap] at h
  obtain ⟨c, hc, hb⟩ := h
  by_cases hsmall : c.toNat < 128
  · rw [utf8EncodeChar_of_lt hsmall, List.mem_singleton] at hb
    have hback : (UInt8.ofNat c.toNat).toNat = c.toNat :=
      UInt8.toNat_ofNat_of_lt' (Nat.lt_trans hsmall (by decide))
    have hn : c.toNat = '\n'.toNat := hback.symm.trans (congrArg UInt8.toNat hb).symm
    exact Char.toNat_inj.mp hn ▸ hc
  · have hlarge := le_of_mem_utf8EncodeChar (Nat.le_of_not_lt hsmall) _ hb
    exact absurd hlarge (by decide)

end Text

namespace Fingerprint

/-! ## Numbers -/

/-- A number is determined by its last digits up to their place value. -/
theorem mod_pow_eq_of_digits
    {base n m k : Nat}
    (h : ∀ i < k, n / base ^ i % base = m / base ^ i % base) :
    n % base ^ k = m % base ^ k := by
  induction k with
  | zero => simp [Nat.mod_one]
  | succ k ih =>
      rw [Nat.mod_pow_succ, Nat.mod_pow_succ, ih fun i hi => h i (by omega), h k (by omega)]

theorem eq_of_digits
    (base k : Nat)
    {n m : Nat}
    (hn : n < base ^ k)
    (hm : m < base ^ k)
    (h : ∀ i < k, n / base ^ i % base = m / base ^ i % base) :
    n = m := by
  rw [← Nat.mod_eq_of_lt hn, ← Nat.mod_eq_of_lt hm, mod_pow_eq_of_digits h]

@[simp] theorem length_numberBytes
    (n : Nat) :
    (numberBytes n).length = 8 := by
  simp [numberBytes]

theorem numberBytes_inj
    {n m : Nat}
    (hn : n < 2 ^ 64)
    (hm : m < 2 ^ 64)
    (h : numberBytes n = numberBytes m) :
    n = m := by
  refine eq_of_digits 256 8 hn hm fun i hi => ?_
  have hbyte := List.map_inj_left.mp h i (List.mem_range.mpr hi)
  simpa [Nat.shiftRight_eq_div_pow, Nat.pow_mul] using congrArg UInt8.toNat hbyte

/-- **A fingerprint is determined by its digits.** -/
theorem text_injective : Function.Injective text := by
  intro a b h
  have hdigits := List.map_inj_left.mp (String.ofList_injective h)
  apply UInt64.toNat_inj.mp
  refine eq_of_digits 16 16 a.toNat_lt b.toNat_lt fun i hi => ?_
  have hdigit := hdigits (15 - i) (List.mem_range.mpr (by omega))
  rw [Nat.sub_sub_self (by omega), Nat.shiftRight_eq_div_pow, Nat.shiftRight_eq_div_pow,
    Nat.pow_mul] at hdigit
  have hvalue := congrArg Json.hexValue? hdigit
  rwa [Json.hexValue?_hexDigit (Nat.mod_lt _ (by omega)),
    Json.hexValue?_hexDigit (Nat.mod_lt _ (by omega)), Option.some_inj] at hvalue

/-! ## The stream -/

/-- The byte is a flag's. -/
def IsFlag (b : UInt8) : Prop := b ≤ 1

instance (b : UInt8) : Decidable (IsFlag b) := inferInstanceAs (Decidable (b ≤ 1))

theorem not_isFlag_of_mem_token
    (version : HostVersion) :
    ∀ b ∈ Text.bytes version.token, ¬ IsFlag b := by
  have hall : (Text.bytes version.token).all (fun b => !decide (IsFlag b)) = true := by
    cases version <;> decide
  simpa using hall

theorem token_injective : Function.Injective HostVersion.token := by
  intro v w h
  cases v <;> cases w <;> first | rfl | (revert h; decide)

theorem lineBytes_inj
    {lines lines' : List String}
    (hlines : ∀ line ∈ lines, '\n' ∉ line.toList)
    (hlines' : ∀ line ∈ lines', '\n' ∉ line.toList)
    (h : lines.flatMap lineBytes = lines'.flatMap lineBytes) :
    lines = lines' := by
  induction lines generalizing lines' with
  | nil =>
      cases lines' with
      | nil => rfl
      | cons line' lines' => simp [lineBytes] at h
  | cons line lines ih =>
      cases lines' with
      | nil => simp [lineBytes] at h
      | cons line' lines' =>
          rw [List.forall_mem_cons] at hlines hlines'
          simp only [List.flatMap_cons, lineBytes, List.append_assoc, List.singleton_append] at h
          obtain ⟨hline, -, hrest⟩ := Text.append_cons_inj (· = 0x0A)
            (fun b hb hmark => hlines.1 (Text.mem_of_mem_bytes (hmark ▸ hb)))
            (fun b hb hmark => hlines'.1 (Text.mem_of_mem_bytes (hmark ▸ hb))) rfl rfl h
          rw [Text.bytes_injective hline, ih hlines.2 hlines'.2 hrest]

/-- The numbers in a stream fit into a machine word, and no line goes on in another. -/
structure IsProper
    (options : ConversionOptions)
    (chunkSize : Nat)
    (lines : List String) : Prop where
  maxJsonSize_lt : ∀ size ∈ options.maxJsonSize, size < 2 ^ 64
  chunkSize_lt : chunkSize < 2 ^ 64
  noNewline : ∀ line ∈ lines, '\n' ∉ line.toList

/-- **The stream determines what it is made of**, only that no limit of the size is
written as the greatest one. -/
theorem stream_inj
    {options options' : ConversionOptions}
    {chunkSize chunkSize' : Nat}
    {lines lines' : List String}
    (hproper : IsProper options chunkSize lines)
    (hproper' : IsProper options' chunkSize' lines')
    (h : stream options chunkSize lines = stream options' chunkSize' lines') :
    options.version = options'.version ∧ options.advanced = options'.advanced ∧
      options.maxJsonSize.getD unlimited = options'.maxJsonSize.getD unlimited ∧
      chunkSize = chunkSize' ∧ lines = lines' := by
  have hlimit : ∀ options : ConversionOptions, (∀ size ∈ options.maxJsonSize, size < 2 ^ 64) →
      options.maxJsonSize.getD unlimited < 2 ^ 64 := by
    intro options hsize
    cases hmax : options.maxJsonSize with
    | none => decide
    | some size => exact hsize size hmax
  have hflag : ∀ advanced : Bool, IsFlag (if advanced then 1 else 0) := by decide
  simp only [stream, List.append_assoc, List.singleton_append] at h
  obtain ⟨htoken, hadvanced, hrest⟩ := Text.append_cons_inj IsFlag
    (not_isFlag_of_mem_token _) (not_isFlag_of_mem_token _) (hflag _) (hflag _) h
  obtain ⟨hmax, hrest⟩ := List.append_inj hrest (by simp)
  obtain ⟨hchunk, hlines⟩ := List.append_inj hrest (by simp)
  refine ⟨token_injective (Text.bytes_injective htoken), ?_, ?_, ?_, ?_⟩
  · revert hadvanced
    cases options.advanced <;> cases options'.advanced <;> decide
  · exact numberBytes_inj (hlimit _ hproper.maxJsonSize_lt) (hlimit _ hproper'.maxJsonSize_lt)
      hmax
  · exact numberBytes_inj hproper.chunkSize_lt hproper'.chunkSize_lt hchunk
  · exact lineBytes_inj hproper.noNewline hproper'.noNewline hlines

end Fingerprint
end FilterCompiler
