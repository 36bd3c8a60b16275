import FilterCompiler.Pattern.Host
import FilterCompiler.Proofs.Text
import FilterCompiler.Regex.Dialect

/-!
# What is written in ASCII

A label in Punycode consists of the ASCII characters of the label, a hyphen and
the digits of numbers.  The writer only ever puts digits in front of what it
has, so its characters stay ASCII through all its passes (`allAscii_place`).
Hence host names and domains are ASCII once they have been encoded
(`Domain.allAscii_toAscii`).

Regex sources are ASCII once they have been checked (`Regex.allAscii_of_check`).
-/

namespace FilterCompiler

/-- All characters of the text are ASCII characters. -/
def Text.AllAscii (s : List Char) : Prop :=
  ∀ c ∈ s, isAscii c = true

namespace Text

theorem allAscii_iff_all
    (s : List Char) :
    AllAscii s ↔ s.all isAscii = true := by
  rw [List.all_eq_true]
  rfl

instance (s : List Char) : Decidable (AllAscii s) :=
  decidable_of_iff (s.all isAscii = true) (allAscii_iff_all s).symm

theorem allAscii_append
    (s t : List Char) :
    AllAscii (s ++ t) ↔ AllAscii s ∧ AllAscii t := by
  exact List.forall_mem_append

theorem isAscii_ofNat
    {n : Nat}
    (hn : n < 128) :
    isAscii (Char.ofNat n) = true := by
  have h : ∀ n < 128, isAscii (Char.ofNat n) = true := by decide
  exact h n hn

/-- Joined pieces are ASCII if the pieces and the separator are. -/
theorem allAscii_joinWith
    {sep : List Char}
    {pieces : List (List Char)}
    (hsep : AllAscii sep)
    (h : ∀ piece ∈ pieces, AllAscii piece) :
    AllAscii (joinWith sep pieces) := by
  exact forall_mem_joinWith hsep h

end Text

/-! ## Punycode -/

namespace Punycode

open Text (AllAscii isAscii)

theorem isAscii_digitChar
    {d : Nat}
    (hd : d < 36) :
    isAscii (digitChar d) = true := by
  unfold digitChar
  split
  · exact Text.isAscii_ofNat (by omega)
  · exact Text.isAscii_ofNat (by omega)

theorem allAscii_digits
    (bias k q : Nat) :
    AllAscii (digits bias k q) := by
  fun_induction digits bias k q with
  | case1 k q t hq =>
      have ht : t ≤ 26 := (threshold_bounds k bias).2
      rw [AllAscii, List.forall_mem_singleton]
      exact isAscii_digitChar (by omega)
  | case2 k q t hq ih =>
      have ht : t ≤ 26 := (threshold_bounds k bias).2
      have hmod : (q - t) % (36 - t) < 36 - t := Nat.mod_lt _ (by omega)
      rw [AllAscii, List.forall_mem_cons]
      exact ⟨isAscii_digitChar (by omega), ih⟩

/-- A pass puts the digits of a number in front, or nothing. -/
theorem allAscii_pass
    (isFirstOf m : Nat)
    {w : Writer}
    (c : Char)
    (hw : AllAscii w.done) :
    AllAscii (w.pass isFirstOf m c).done := by
  unfold Writer.pass
  split
  · exact hw
  split
  · rw [Text.allAscii_append]
    refine ⟨?_, hw⟩
    intro d hd
    exact allAscii_digits _ _ _ d (List.mem_reverse.mp hd)
  · exact hw

theorem allAscii_passes
    (isFirstOf m : Nat)
    {w : Writer}
    (label : List Char)
    (hw : AllAscii w.done) :
    AllAscii (label.foldl (Writer.pass isFirstOf m) w).done := by
  induction label generalizing w with
  | nil => exact hw
  | cons c label ih => exact ih (allAscii_pass isFirstOf m c hw)

theorem allAscii_place
    (label : List Char)
    (basic : Nat)
    (values : List Nat)
    (n : Nat)
    {w : Writer}
    (hw : AllAscii w.done) :
    AllAscii (Writer.place label basic values n w).done := by
  induction values generalizing n w with
  | nil => exact hw
  | cons m values ih =>
      apply ih
      exact allAscii_passes basic m label hw

/-- **The written form of a label is ASCII.** -/
theorem allAscii_encode
    (label : List Char) :
    AllAscii (encode label) := by
  have hbasic : AllAscii (basicPart label) := by
    intro c hc
    exact (List.mem_filter.mp hc).2
  have hempty : AllAscii [] := by simp [AllAscii]
  unfold encode
  rw [Text.allAscii_append]
  constructor
  · split
    · exact hempty
    · rw [Text.allAscii_append]
      exact ⟨hbasic, by simp [AllAscii, isAscii]⟩
  · intro c hc
    exact allAscii_place label _ _ _ hempty c (List.mem_reverse.mp hc)

/-- Only ASCII texts are read. -/
theorem allAscii_of_decode?
    {code label : List Char}
    (h : decode? code = some label) :
    AllAscii code := by
  unfold decode? at h
  rw [Text.allAscii_iff_all]
  simp only [Option.ite_none_right_eq_some] at h
  exact h.1

end Punycode

/-! ## Host names -/

/-- An item of a mapped list comes from an item of the list. -/
theorem exists_of_mem_mapM
    {α β : Type}
    {f : α → Option β}
    {l : List α}
    {l' : List β}
    (h : l.mapM f = some l')
    {b : β}
    (hb : b ∈ l') :
    ∃ a ∈ l, f a = some b := by
  induction l generalizing l' with
  | nil =>
      cases h
      cases hb
  | cons a l ih =>
      rw [List.mapM_cons] at h
      obtain ⟨b', hb', h⟩ := Option.bind_eq_some_iff.mp h
      obtain ⟨l'', hl'', h⟩ := Option.bind_eq_some_iff.mp h
      cases h
      rcases List.mem_cons.mp hb with rfl | hb
      · exact ⟨a, List.mem_cons_self, hb'⟩
      · obtain ⟨a', ha', hfa'⟩ := ih hl'' hb
        exact ⟨a', List.mem_cons_of_mem _ ha', hfa'⟩

namespace Idna

open Text (AllAscii isAscii)

theorem allAscii_of_readEncoded?
    {code label : List Char}
    (h : readEncoded? code = some label) :
    AllAscii code := by
  unfold readEncoded? at h
  split at h
  · cases h
  · split at h
    · cases h
    · next hdecode => exact Punycode.allAscii_of_decode? hdecode

/-- A label is written in ASCII, whichever way it is read. -/
theorem allAscii_written
    {text : List Char}
    {label : Label}
    (h : readLabel? text = some label) :
    AllAscii label.written := by
  have hlead : AllAscii encodedLead := by decide
  unfold readLabel? at h
  split at h
  · next code hcode =>
      split at h
      · cases h
      · next hread =>
          rw [Option.ite_none_right_eq_some] at h
          obtain ⟨-, h⟩ := h
          cases h
          rw [Text.dropLead?_eq_some_iff.mp hcode, Text.allAscii_append]
          exact ⟨hlead, allAscii_of_readEncoded? hread⟩
  · split at h
    · next hall =>
        cases h
        exact (Text.allAscii_iff_all text).mpr hall
    · rw [Option.ite_none_right_eq_some] at h
      obtain ⟨-, h⟩ := h
      cases h
      rw [Text.allAscii_append]
      exact ⟨hlead, Punycode.allAscii_encode text⟩

/-- **A host name that can be written in ASCII is.** -/
theorem allAscii_toAscii
    {host ascii : String}
    (h : toAscii host = some ascii) :
    AllAscii ascii.toList := by
  unfold toAscii at h
  split at h
  · cases h
  · next labels hlabels =>
      rw [Option.ite_none_right_eq_some] at h
      obtain ⟨-, h⟩ := h
      cases h
      rw [String.toList_ofList]
      apply Text.allAscii_joinWith (by decide)
      intro written hwritten
      obtain ⟨label, hlabel, rfl⟩ := List.mem_map.mp hwritten
      unfold labels? at hlabels
      split at hlabels
      · cases hlabels
      · obtain ⟨text, -, htext⟩ := exists_of_mem_mapM hlabels hlabel
        exact allAscii_written htext

end Idna

/-- The encoder writes host names with ASCII characters only. -/
class DomainEncoder.IsAscii [DomainEncoder] : Prop where
  allAscii_toAscii : ∀ {host ascii : String},
    DomainEncoder.toAscii host = some ascii → Text.AllAscii ascii.toList

instance : DomainEncoder.IsAscii where
  allAscii_toAscii := Idna.allAscii_toAscii

/-- **A domain in ASCII has ASCII characters only.** -/
theorem Domain.allAscii_toAscii
    [DomainEncoder]
    [DomainEncoder.IsAscii]
    {domain ascii : String}
    (h : toAscii domain = some ascii) :
    Text.AllAscii ascii.toList := by
  unfold toAscii at h
  split at h
  · next hall =>
      cases h
      exact (Text.allAscii_iff_all _).mpr hall
  · exact DomainEncoder.IsAscii.allAscii_toAscii h

/-! ## Regex sources -/

namespace Regex

theorem isAscii_of_isEscapable
    {c : Char}
    (hc : isEscapable c = true) :
    Text.isAscii c = true := by
  simp only [isEscapable, decide_eq_true_eq] at hc
  exact List.all_eq_true.mp (by decide) c hc

/-- Every character that is passed is ASCII. -/
theorem allAscii_of_checkFrom
    {pos : Nat}
    {st : Scan}
    {s : List Char}
    (h : checkFrom pos st s = .ok ()) :
    Text.AllAscii s := by
  fun_induction checkFrom pos st s with
  | case1 => simp [Text.AllAscii]
  | case2 => simp [Text.AllAscii]
  | case3 => cases h
  | case4 => cases h
  | case5 pos st e s he hascii ih =>
      rw [Text.AllAscii, List.forall_mem_cons, List.forall_mem_cons]
      exact ⟨by decide, isAscii_of_isEscapable he, ih h⟩
  | case6 => cases h
  | case7 pos st c s hascii hslash st' hstep ih =>
      rw [Text.AllAscii, List.forall_mem_cons]
      exact ⟨by simpa using hascii, ih h⟩
  | case8 => cases h

/-- **A source that the checker accepts is ASCII.** -/
theorem allAscii_of_check
    {source : String}
    (h : check source = .ok ()) :
    Text.AllAscii source.toList := by
  exact allAscii_of_checkFrom h

end Regex
end FilterCompiler
