import FilterCompiler.Proofs.Pattern.Meaning
import FilterCompiler.Proofs.Text.Bytes

/-!
# Patterns and the dialect

The translation of a pattern fails at characters beyond ASCII only, at the
first one and with its byte offset, and what it writes is in the dialect
(`toRegex_in_dialect`).
-/

namespace FilterCompiler
namespace Pattern

/-- The first character of the text beyond ASCII has this byte offset. -/
def IsFirstNonAscii (s : List Char) (pos : Nat) : Prop :=
  ∃ before c after, s = before ++ c :: after ∧
    (∀ d ∈ before, Text.isAscii d = true) ∧ Text.isAscii c = false ∧
    pos = Text.byteLength before

/-- An ASCII character in front moves the offset by one. -/
theorem isFirstNonAscii_cons
    {c : Char}
    (hc : Text.isAscii c = true)
    (s : List Char)
    (pos : Nat) :
    IsFirstNonAscii (c :: s) pos ↔
      ∃ rest, IsFirstNonAscii s rest ∧ pos = rest + 1 := by
  constructor
  · rintro ⟨before, d, after, hs, hbefore, hd, rfl⟩
    cases before with
    | nil =>
        obtain ⟨rfl, -⟩ := List.cons.inj hs
        simp [hc] at hd
    | cons b before =>
        obtain ⟨rfl, rfl⟩ := List.cons.inj hs
        rw [List.forall_mem_cons] at hbefore
        refine ⟨_, ⟨before, d, after, rfl, hbefore.2, hd, rfl⟩, ?_⟩
        rw [Text.byteLength, Text.utf8Size_of_isAscii hc]
        omega
  · rintro ⟨_, ⟨before, d, after, rfl, hbefore, hd, rfl⟩, rfl⟩
    refine ⟨c :: before, d, after, rfl, ?_, hd, ?_⟩
    · rw [List.forall_mem_cons]
      exact ⟨hc, hbefore⟩
    · rw [Text.byteLength, Text.utf8Size_of_isAscii hc]
      omega

/-- A character beyond ASCII in front is the first one. -/
theorem isFirstNonAscii_cons_of_not
    {c : Char}
    (hc : Text.isAscii c = false)
    (s : List Char)
    (pos : Nat) :
    IsFirstNonAscii (c :: s) pos ↔ pos = 0 := by
  constructor
  · rintro ⟨before, d, after, hs, hbefore, -, rfl⟩
    cases before with
    | nil => rfl
    | cons b before =>
        obtain ⟨rfl, -⟩ := List.cons.inj hs
        rw [List.forall_mem_cons] at hbefore
        simp [hc] at hbefore
  · rintro rfl
    exact ⟨[], c, s, rfl, by simp, hc, rfl⟩

/-- A text without characters beyond ASCII has no first one. -/
theorem not_isFirstNonAscii
    {s : List Char}
    (hs : ∀ c ∈ s, Text.isAscii c = true)
    (pos : Nat) :
    ¬ IsFirstNonAscii s pos := by
  rintro ⟨before, c, after, rfl, -, hc, -⟩
  have := hs c (by simp)
  simp [hc] at this

/-- Every other text has one. -/
theorem exists_isFirstNonAscii
    {s : List Char}
    (hs : ¬ ∀ c ∈ s, Text.isAscii c = true) :
    ∃ pos, IsFirstNonAscii s pos := by
  induction s with
  | nil => simp at hs
  | cons c s ih =>
      cases hc : Text.isAscii c with
      | false => exact ⟨0, (isFirstNonAscii_cons_of_not hc s 0).mpr rfl⟩
      | true =>
          rw [List.forall_mem_cons, hc] at hs
          obtain ⟨pos, hpos⟩ := ih fun h => hs ⟨rfl, h⟩
          exact ⟨pos + 1, (isFirstNonAscii_cons hc s _).mpr ⟨pos, hpos, rfl⟩⟩

/-! ## Errors of the translation -/

theorem emit_eq_error_iff
    {w : List Char}
    {regex : Except Nat (List Char)}
    {pos : Nat} :
    emit w regex = .error pos ↔ regex = .error pos := by
  cases regex <;> simp [emit]

theorem isEscaped_of_not_isAscii
    {c : Char}
    (hc : Text.isAscii c = false) :
    isEscaped c = false := by
  rw [← Bool.not_eq_true]
  intro hescaped
  rw [Regex.isAscii_of_isEscapable (isEscapable_of_isEscaped (.inr hescaped))] at hc
  cases hc

/-- A character beyond ASCII has no translation. -/
theorem regexFrom_cons_of_not
    (pos : Nat)
    (inHost : Bool)
    {c : Char}
    (rest : List Char)
    (hc : Text.isAscii c = false) :
    regexFrom pos inHost (c :: rest) = .error pos := by
  have hne := fun d => Text.ne_of_isAscii (d := d) hc
  simp [regexFrom, isEscaped_of_not_isAscii hc, hc, hne '.' (by decide), hne '|' (by decide),
    hne '^' (by decide), hne '*' (by decide)]

/-- **The translation fails at the first character beyond ASCII.** -/
theorem regexFrom_eq_error_iff
    (s : List Char)
    (pos : Nat)
    (inHost : Bool)
    (at_ : Nat) :
    regexFrom pos inHost s = .error at_ ↔
      ∃ rest, IsFirstNonAscii s rest ∧ at_ = pos + rest := by
  induction s generalizing pos inHost with
  | nil => simp [regexFrom, IsFirstNonAscii]
  | cons c s ih =>
      cases hc : Text.isAscii c with
      | false =>
          rw [regexFrom_cons_of_not pos inHost s hc]
          simp only [isFirstNonAscii_cons_of_not hc, exists_eq_left, Nat.add_zero,
            Except.error.injEq, eq_comm]
      | true =>
          rw [regexFrom_cons pos inHost s hc, emit_eq_error_iff, ih]
          simp only [isFirstNonAscii_cons hc]
          constructor
          · rintro ⟨rest, hrest, rfl⟩
            exact ⟨rest + 1, ⟨rest, hrest, rfl⟩, by omega⟩
          · rintro ⟨_, ⟨rest, hrest, rfl⟩, rfl⟩
            exact ⟨rest, hrest, by omega⟩

/-- The signs in front of a pattern are ASCII characters. -/
theorem regexOf_eq_error_iff
    (s : List Char)
    (pos : Nat) :
    regexOf s = .error pos ↔ IsFirstNonAscii s pos := by
  have hbar : Text.isAscii '|' = true := by decide
  unfold regexOf
  split
  · next rest =>
    rw [emit_eq_error_iff, regexFrom_eq_error_iff]
    simp only [isFirstNonAscii_cons hbar]
    constructor
    · rintro ⟨n, hn, rfl⟩
      exact ⟨n + 1, ⟨n, hn, rfl⟩, by omega⟩
    · rintro ⟨_, ⟨n, hn, rfl⟩, rfl⟩
      exact ⟨n, hn, by omega⟩
  · next rest _ =>
    rw [emit_eq_error_iff, regexFrom_eq_error_iff]
    simp only [isFirstNonAscii_cons hbar, Nat.add_comm]
  · rw [regexFrom_eq_error_iff]
    simp

/-- A pattern fails at its first character beyond ASCII. -/
theorem toRegex_eq_error_iff
    (pattern : String)
    (pos : Nat) :
    toRegex pattern = .error pos ↔ IsFirstNonAscii pattern.toList pos := by
  by_cases hall : pattern = "" ∨ pattern = "*" ∨ pattern = "|" ∨ pattern = "||"
  · have hascii : ∀ c ∈ pattern.toList, Text.isAscii c = true := by
      rcases hall with rfl | rfl | rfl | rfl
      all_goals exact List.all_eq_true.mp (by decide)
    simp [toRegex, hall, not_isFirstNonAscii hascii]
  · rw [toRegex, if_neg hall, ← regexOf_eq_error_iff]
    cases regexOf pattern.toList <;> simp [Except.map]

/-- A pattern that is translated is ASCII. -/
theorem isAscii_of_toRegex
    {pattern regex : String}
    (h : toRegex pattern = .ok regex) :
    ∀ c ∈ pattern.toList, Text.isAscii c = true := by
  by_contra hascii
  obtain ⟨pos, hpos⟩ := exists_isFirstNonAscii hascii
  rw [(toRegex_eq_error_iff pattern pos).mpr hpos] at h
  cases h

/-- The regex of a pattern matches what the pattern matches. -/
theorem matches_iff_of_toRegex
    {pattern regex : String}
    (h : toRegex pattern = .ok regex)
    (url : String) :
    Regex.Matches regex url ↔ Matches pattern url := by
  obtain ⟨regex', t, hregex, htext, hmatches⟩ :=
    exists_source_of_isAscii pattern (isAscii_of_toRegex h)
  obtain rfl : regex' = regex := by simpa [hregex] using h
  rw [Regex.matches_iff_of_text htext, hmatches]

/-- The checker accepts every translation. -/
theorem check_of_toRegex
    {pattern regex : String}
    (h : toRegex pattern = .ok regex) :
    Regex.check regex = .ok () := by
  obtain ⟨regex', t, hregex, htext, -⟩ :=
    exists_source_of_isAscii pattern (isAscii_of_toRegex h)
  obtain rfl : regex' = regex := by simpa [hregex] using h
  exact (Regex.check_eq_ok_iff_source regex').mpr ⟨t, htext⟩

/-- **The translation never leaves the dialect**: it succeeds on ASCII patterns
only, a failure gives the offset of the first character beyond ASCII, and the
checker accepts every result. -/
theorem toRegex_in_dialect (pattern : String) :
    ((∃ regex, toRegex pattern = .ok regex) ↔
      ∀ c ∈ pattern.toList, Text.isAscii c = true) ∧
    (∀ pos, toRegex pattern = .error pos ↔
      IsFirstNonAscii pattern.toList pos) ∧
    (∀ regex, toRegex pattern = .ok regex → Regex.check regex = .ok ()) := by
  refine ⟨⟨?_, ?_⟩, toRegex_eq_error_iff pattern, fun regex => check_of_toRegex⟩
  · rintro ⟨regex, hregex⟩
    exact isAscii_of_toRegex hregex
  · intro hascii
    obtain ⟨regex, _, hregex, -⟩ := exists_source_of_isAscii pattern hascii
    exact ⟨regex, hregex⟩

end Pattern
end FilterCompiler
