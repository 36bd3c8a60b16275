import FilterCompiler.Proofs.Checked.Host
import FilterCompiler.Proofs.Checked.Pattern
import FilterCompiler.Proofs.Rule.Parts

/-!
# Network rules read byte by byte

The sign of options is looked for from the last byte of a line backwards, and the line is
cut in front of it and behind it (`splitOptions_eq`).  With the parts in hand a network
rule is read from slices that are in range (`parseNetwork_eq`).
-/

namespace FilterCompiler
namespace Checked

open Text (codes sub? sliceTo? sliceFrom?)

/-! ## The sign of options -/

/-- The byte is the sign of options: no backslash stands in front of it and no slash behind. -/
def isOptionSign (bytes : List Char) (i : Nat) : Option Bool := do
  let b ← bytes[i]?
  if b ≠ '$' then return false
  if i ≠ 0 then
    let before ← bytes[← sub? i 1]?
    if before = '\\' then return false
  return bytes[i + 1]? != some '/'

/-- The parts of a network line. -/
def splitOptions (line : List Char) : Option RuleParts := do
  let (isException, body) := cutException line
  let bytes := codes body
  match ← (List.range bytes.length).reverse.findM? (isOptionSign bytes) with
  | none => return { isException, pattern := body, options := none }
  | some i =>
      let pattern ← sliceTo? i body
      let options ← sliceFrom? (i + 1) body
      return { isException, pattern, options := some options }

/-- A search whose every round succeeds is the search with what the rounds give. -/
theorem findM?_eq
    {α : Type}
    {f : α → Option Bool}
    {g : α → Bool}
    {l : List α}
    (h : ∀ a ∈ l, f a = some (g a)) :
    l.findM? f = some (l.find? g) := by
  induction l with
  | nil => rfl
  | cons a l ih =>
      rw [List.forall_mem_cons] at h
      rw [List.findM?, h.1, List.find?_cons, ih h.2]
      cases g a <;> rfl

/-- The last number below `n` for which `p` holds. -/
theorem find?_reverse_range_eq_some_iff
    {p : Nat → Bool}
    {n i : Nat} :
    (List.range n).reverse.find? p = some i ↔ i < n ∧ p i ∧ ∀ j < n, i < j → p j = false := by
  induction n with
  | zero => simp
  | succ n ih =>
      rw [List.range_succ, List.reverse_append, List.reverse_singleton, List.singleton_append,
        List.find?_cons]
      cases hn : p n with
      | true =>
          rw [Option.some.injEq]
          constructor
          · rintro rfl
            exact ⟨Nat.lt_succ_self n, hn, fun j hj hlt => by omega⟩
          · rintro ⟨hi, -, hlater⟩
            rcases Nat.lt_succ_iff_lt_or_eq.mp hi with hi | rfl
            · rw [hlater n (Nat.lt_succ_self n) hi] at hn
              cases hn
            · rfl
      | false =>
          dsimp only
          rw [ih]
          constructor
          · rintro ⟨hi, hp, hlater⟩
            refine ⟨by omega, hp, fun j hj hlt => ?_⟩
            rcases Nat.lt_succ_iff_lt_or_eq.mp hj with hj | rfl
            · exact hlater j hj hlt
            · exact hn
          · rintro ⟨hi, hp, hlater⟩
            rcases Nat.lt_succ_iff_lt_or_eq.mp hi with hi | rfl
            · exact ⟨hi, hp, fun j hj => hlater j (by omega)⟩
            · rw [hn] at hp
              cases hp

/-- The text has the sign of options at byte `i`. -/
def SignStandsAt (i : Nat) (s : List Char) : Prop :=
  ∃ before after, s = before ++ '$' :: after ∧ Text.byteLength before = i ∧
    before.getLast? ≠ some '\\' ∧ after.head? ≠ some '/'

/-- The byte in front of a place in the text tells the character there. -/
theorem getElem?_codes_pred_iff
    {before : List Char}
    (hne : before ≠ [])
    (rest : List Char)
    {c : Char}
    (hc : Text.isAscii c) :
    (codes (before ++ rest))[Text.byteLength before - 1]? = some c ↔ before.getLast? = some c := by
  have hpos : Text.byteLength before ≠ 0 := mt Text.eq_nil_of_byteLength_eq_zero hne
  rw [← Text.getLast?_codes_eq_some_iff hc, List.getLast?_eq_getElem?, Text.length_codes,
    Text.codes_append, List.getElem?_append_left]
  rw [Text.length_codes]
  omega

theorem signStandsAt_append_iff
    {before after : List Char} :
    SignStandsAt (Text.byteLength before) (before ++ '$' :: after) ↔
      before.getLast? ≠ some '\\' ∧ after.head? ≠ some '/' := by
  constructor
  · rintro ⟨before', after', hs, hlength, hsign⟩
    obtain ⟨rfl, htail⟩ := Text.append_inj_of_byteLength hs hlength.symm
    obtain ⟨-, rfl⟩ := List.cons.inj htail
    exact hsign
  · exact fun hsign => ⟨before, after, rfl, rfl, hsign⟩

/-- **The bytes tell where the sign of options stands.** -/
theorem exists_isOptionSign
    {s : List Char}
    {i : Nat}
    (hi : i < (codes s).length) :
    ∃ found, isOptionSign (codes s) i = some found ∧ (found ↔ SignStandsAt i s) := by
  have hget := List.getElem?_eq_getElem hi
  rw [isOptionSign, hget, Option.bind_eq_bind, Option.bind_some]
  by_cases hdollar : (codes s)[i] = '$'
  · rw [hdollar] at hget
    obtain ⟨before, after, rfl, rfl⟩ := Text.exists_cut_of_getElem?_codes hget rfl
    have hslash : (codes (before ++ '$' :: after))[Text.byteLength before + 1]? ≠ some '/' ↔
        after.head? ≠ some '/' := by
      rw [getElem?_codes_append_cons_succ before after rfl, Ne, Text.head?_codes_eq_some_iff rfl]
    rw [if_neg (not_not.mpr hdollar), signStandsAt_append_iff, ← hslash]
    by_cases hne : before = []
    · subst hne
      refine ⟨_, if_neg (not_not.mpr rfl), ?_⟩
      simp
    · have hpos : Text.byteLength before ≠ 0 := mt Text.eq_nil_of_byteLength_eq_zero hne
      have hbackslash := getElem?_codes_pred_iff hne ('$' :: after) (c := '\\') rfl
      rw [List.getElem?_eq_getElem (by omega), Option.some.injEq] at hbackslash
      rw [if_pos hpos, Text.sub?_of_le (by omega), Option.bind_eq_bind, Option.bind_some,
        List.getElem?_eq_getElem (by omega), Option.bind_some]
      by_cases hescaped : before.getLast? = some '\\'
      · exact ⟨false, if_pos (hbackslash.mpr hescaped), by simp [hescaped]⟩
      · exact ⟨_, if_neg (mt hbackslash.mp hescaped), by simp [hescaped]⟩
  · refine ⟨false, if_pos hdollar, iff_of_false Bool.false_ne_true ?_⟩
    rintro ⟨before, after, rfl, rfl, -⟩
    rw [getElem?_codes_append_cons before after rfl, Option.some.injEq] at hget
    exact hdollar hget.symm

/-- Behind the cut of a text no sign of options stands. -/
theorem not_signStandsAt_of_cutOptions?
    {pattern options : List Char}
    (h : cutOptions? (some '$') options = none)
    {i : Nat}
    (hi : Text.byteLength pattern < i) :
    ¬ SignStandsAt i (pattern ++ '$' :: options) := by
  rintro ⟨before, after, hs, rfl, hlast, hhead⟩
  rcases List.append_eq_append_iff.mp hs with ⟨middle, rfl, hmiddle⟩ | ⟨middle, rfl, hmiddle⟩
  · cases middle with
    | nil =>
        rw [List.append_nil] at hi
        exact Nat.lt_irrefl _ hi
    | cons d middle =>
        obtain ⟨rfl, rfl⟩ := List.cons.inj hmiddle
        rw [List.getLast?_append, List.getLast?_cons, Option.some_or, ← Option.or_some] at hlast
        exact hhead (cutOptions?_eq_none_iff.mp h middle after rfl hlast)
  · rw [Text.byteLength_append] at hi
    omega

/-- **A text is cut at the last sign of options.** -/
theorem byteLength_cutOptions?_eq_some_iff
    {s : List Char}
    {i : Nat} :
    (cutOptions? none s).map (fun p => Text.byteLength p.1) = some i ↔
      SignStandsAt i s ∧ ∀ j, i < j → ¬ SignStandsAt j s := by
  cases hcut : cutOptions? none s with
  | none =>
      refine iff_of_false (by simp) ?_
      rintro ⟨⟨before, after, hs, -, hlast, hhead⟩, -⟩
      rw [← Option.or_none (o := before.getLast?)] at hlast
      exact hhead (cutOptions?_eq_none_iff.mp hcut before after hs hlast)
  | some p =>
      obtain ⟨pattern, options⟩ := p
      obtain ⟨rfl, hlast, hhead, hnone⟩ := cutOptions?_eq_some_iff.mp hcut
      rw [Option.or_none] at hlast
      have hstands := signStandsAt_append_iff.mpr ⟨hlast, hhead⟩
      have hlater : ∀ j, Text.byteLength pattern < j →
          ¬ SignStandsAt j (pattern ++ '$' :: options) :=
        fun _ => not_signStandsAt_of_cutOptions? hnone
      rw [Option.map_some, Option.some.injEq]
      constructor
      · rintro rfl
        exact ⟨hstands, hlater⟩
      · rintro ⟨hi, hi'⟩
        rcases Nat.lt_trichotomy (Text.byteLength pattern) i with hlt | heq | hlt
        · exact absurd hi (hlater i hlt)
        · exact heq
        · exact absurd hstands (hi' _ hlt)

/-- **The search finds the place at which a text is cut.** -/
theorem findM?_isOptionSign_eq
    (s : List Char) :
    (List.range (codes s).length).reverse.findM? (isOptionSign (codes s)) =
      some ((cutOptions? none s).map fun p => Text.byteLength p.1) := by
  have hround : ∀ i ∈ (List.range (codes s).length).reverse,
      isOptionSign (codes s) i = some ((isOptionSign (codes s) i).getD false) := by
    intro i hi
    rw [List.mem_reverse, List.mem_range] at hi
    obtain ⟨found, hfound, -⟩ := exists_isOptionSign hi
    rw [hfound]
    rfl
  have hsign : ∀ i < (codes s).length,
      ((isOptionSign (codes s) i).getD false ↔ SignStandsAt i s) := by
    intro i hi
    obtain ⟨found, hfound, hstands⟩ := exists_isOptionSign hi
    rw [hfound]
    exact hstands
  have hlength : ∀ i, SignStandsAt i s → i < (codes s).length := by
    rintro i ⟨before, after, rfl, rfl, -⟩
    rw [Text.length_codes, Text.byteLength_append, Text.byteLength]
    have hpos := '$'.utf8Size_pos
    omega
  rw [findM?_eq hround, Option.some.injEq]
  refine Option.ext fun i => ?_
  rw [find?_reverse_range_eq_some_iff, byteLength_cutOptions?_eq_some_iff]
  constructor
  · rintro ⟨hi, hp, hlater⟩
    refine ⟨(hsign i hi).mp hp, fun j hj hstands => ?_⟩
    have hj' := hlength j hstands
    exact Bool.false_ne_true ((hlater j hj' hj).symm.trans ((hsign j hj').mpr hstands))
  · rintro ⟨hstands, hlater⟩
    refine ⟨hlength i hstands, (hsign i (hlength i hstands)).mpr hstands, fun j hj hij => ?_⟩
    exact Bool.eq_false_iff.mpr fun hp => hlater j hij ((hsign j hj).mp hp)

/-- **The parts of a line are in the line.** -/
theorem splitOptions_eq
    (line : List Char) :
    splitOptions line = some (RuleParts.ofLine line) := by
  rw [splitOptions, RuleParts.ofLine]
  cases cutException line with
  | mk isException body =>
  dsimp only
  rw [findM?_isOptionSign_eq, Option.bind_eq_bind, Option.bind_some]
  cases hcut : cutOptions? none body with
  | none => rfl
  | some p =>
      obtain ⟨pattern, options⟩ := p
      obtain ⟨rfl, -⟩ := cutOptions?_eq_some_iff.mp hcut
      have hpattern : sliceTo? (Text.byteLength pattern) (pattern ++ '$' :: options) = some pattern :=
        Text.sliceTo?_eq_some_iff.mpr ⟨'$' :: options, rfl, rfl⟩
      have hoptions : sliceFrom? (Text.byteLength pattern + 1) (pattern ++ '$' :: options) =
          some options :=
        Text.sliceFrom?_eq_some_iff.mpr ⟨pattern ++ ['$'], by simp, Text.byteLength_concat _ rfl⟩
      simp only [Option.map_some, hpattern, hoptions, Option.bind_eq_bind, Option.bind_some]
      rfl

/-! ## Rules -/

/-- Sets the pattern of a rule and its regex. -/
def withPattern (rule : NetworkRule) (pattern : String) :
    Option (Except LineError NetworkRule) := do
  match ← literalRegex? pattern with
  | some body => return .ok { rule with pattern, regex := some body }
  | none =>
      match ← encodeHost pattern with
      | none => return .error (.hostNotEncodable rule.header.text)
      | some pattern =>
          if pattern = "" then return .ok { rule with pattern, regex := none }
          match ← toRegex pattern with
          | .ok regex => return .ok { rule with pattern, regex := some regex }
          | .error pos => return .error (.nonAsciiPattern pos)

/-- The regex of a rule is in the host's dialect. -/
def checkRuleRegex (rule : NetworkRule) : Option (Except LineError Unit) :=
  match rule.regex with
  | none => return .ok ()
  | some regex => do
      match ← checkRegex regex with
      | .ok () => return .ok ()
      | .error e => return .error (.regex e)

/-- Checks a rule as a whole. -/
def validateNetwork (rule : NetworkRule) (version : HostVersion) :
    Option (Except LineError NetworkRule) := do
  if rule.isTooWide then return .error .tooWide
  match ← checkRuleRegex rule with
  | .error e => return .error e
  | .ok () =>
      if !rule.header.isException && rule.options.hasAny exceptionOnly then
        return .error .exceptionOptionOnBlock
      else if rule.lacksFrameScope version then return .error .unscopedSubdocument
      else return .ok rule

/-- Reads a network rule. -/
def parseNetwork (version : HostVersion) (line : String) :
    Option (Except LineError NetworkRule) := do
  if line = "" then return .error .emptyNetworkRule
  let parts ← splitOptions line.toList
  match Modifier.parseAll version (NetworkRule.optionTexts parts.options) with
  | .error e => return .error e
  | .ok ms =>
      let rule := ((NetworkRule.blank line parts.isException).modify ms).narrowToDocuments
      match ← withPattern rule (String.ofList parts.pattern) with
      | .error e => return .error e
      | .ok rule => validateNetwork rule version

theorem withPattern_eq
    (rule : NetworkRule)
    (pattern : String) :
    withPattern rule pattern = some (rule.withPattern pattern) := by
  rw [withPattern, literalRegex?_eq, Option.bind_eq_bind, Option.bind_some]
  unfold NetworkRule.withPattern
  cases Pattern.literalRegex? pattern with
  | some body => rfl
  | none =>
      dsimp only
      rw [encodeHost_eq, Option.bind_eq_bind, Option.bind_some]
      cases Pattern.encodeHost pattern with
      | none => rfl
      | some encoded =>
          dsimp only
          rw [toRegex_eq, Option.bind_some]
          split
          · rfl
          · cases Pattern.toRegex encoded <;> rfl

theorem checkRuleRegex_eq
    (rule : NetworkRule) :
    checkRuleRegex rule = some rule.checkRegex := by
  rw [checkRuleRegex, NetworkRule.checkRegex]
  cases rule.regex with
  | none => rfl
  | some regex =>
      dsimp only
      rw [checkRegex_eq, Option.bind_eq_bind, Option.bind_some]
      cases Regex.check regex <;> rfl

theorem validateNetwork_eq
    (rule : NetworkRule)
    (version : HostVersion) :
    validateNetwork rule version = some (rule.validate version) := by
  rw [validateNetwork, checkRuleRegex_eq, NetworkRule.validate, Option.bind_eq_bind,
    Option.bind_some]
  split
  · rfl
  cases rule.checkRegex with
  | error e => rfl
  | ok _ =>
      dsimp only
      split
      · rfl
      split <;> rfl

/-- **A network rule is read without leaving its line.** -/
theorem parseNetwork_eq
    (version : HostVersion)
    (line : String) :
    parseNetwork version line = some (NetworkRule.parse version line) := by
  rw [parseNetwork, splitOptions_eq, NetworkRule.parse, Option.bind_eq_bind, Option.bind_some]
  split
  · rfl
  dsimp only
  cases Modifier.parseAll version
      (NetworkRule.optionTexts (RuleParts.ofLine line.toList).options) with
  | error e => rfl
  | ok ms =>
      dsimp only
      rw [withPattern_eq, Option.bind_eq_bind, Option.bind_some]
      cases NetworkRule.withPattern _ _ with
      | error e => rfl
      | ok rule => exact validateNetwork_eq rule version

end Checked
end FilterCompiler
