import FilterCompiler.Proofs.Pattern.Host
import FilterCompiler.Proofs.Rule.Reading

/-!
# How a network line is read

A network line comes to a rule if its options are read, its pattern has a regex and the
checks of the rule as a whole let it through (`parse_eq_ok_iff`).  The checks change
nothing, and the pattern that the rule keeps determines its regex
(`regex_eq_of_parse`).
-/

namespace FilterCompiler

/-- The regex of a rule that has this pattern; the empty pattern has none. -/
def Pattern.regex? (pattern : String) : Option String :=
  if pattern = "" then none else (compile pattern).toOption

namespace Modifier

/-! ## Options -/

variable {version : HostVersion} {name option : List Char} {m : Modifier}

/-- **A content type is read by its name**, perhaps behind a tilde, if the host knows the type. -/
theorem ofTypeName_eq_ok_iff :
    ofTypeName version name = .ok m ↔
      ∃ t, ContentType.ofName? (String.ofList (Text.cutTilde name).2) = some t ∧
        ¬ (t = .ping ∧ ¬ version.supportsPing) ∧ m = .contentType t (Text.cutTilde name).1 := by
  unfold ofTypeName
  dsimp only
  cases ContentType.ofName? (String.ofList (Text.cutTilde name).2) with
  | none => simp
  | some t =>
      dsimp only
      split
      · next hping => simp [hping]
      · next hping =>
          rw [Except.ok.injEq, eq_comm]
          simp only [Option.some.injEq, exists_eq_left', hping, not_false_eq_true, true_and]

/-- **An option fills space, lists domains, or is a name without a value.** -/
theorem parse_eq_ok_iff
    [DomainEncoder]
    {value : List Char}
    (hoption : Text.nameAndValue option = (name, value)) :
    parse version option = .ok m ↔
      isFiller name ∧ m = .filler ∨
        ¬ isFiller name ∧
          (isDomainName name ∧ value ≠ [] ∧
              (∃ scope, DomainScope.ofList '|' value = .ok scope ∧ m = .domains scope) ∨
            ¬ isDomainName name ∧ value = [] ∧ ofName version name = .ok m) := by
  unfold parse
  rw [hoption]
  dsimp only
  cases isFiller name with
  | true =>
      simp only [if_true, Except.ok.injEq, true_and, not_true_eq_false, false_and, or_false,
        eq_comm]
  | false =>
      cases isDomainName name with
      | true =>
          cases value with
          | nil => simp
          | cons c value =>
              cases DomainScope.ofList '|' (c :: value) with
              | error fault => simp
              | ok scope => simp [@eq_comm _ m]
      | false =>
          cases ofName version name with
          | error e => simp
          | ok m' => cases value <;> simp

/-- **Options are read one by one.** -/
theorem parseAll_eq_ok_iff
    [DomainEncoder]
    {options : List (List Char)}
    {ms : List Modifier} :
    parseAll version options = .ok ms ↔
      List.Forall₂ (fun option m => parse version option = .ok m) options ms := by
  rw [parseAll_eq_mapM, mapM_eq_ok_iff]

/-- Options in a row are read in order. -/
theorem parseAll_append
    [DomainEncoder]
    {options options' : List (List Char)}
    {ms ms' : List Modifier}
    (h : parseAll version options = .ok ms)
    (h' : parseAll version options' = .ok ms') :
    parseAll version (options ++ options') = .ok (ms ++ ms') :=
  parseAll_eq_ok_iff.mpr
    (List.rel_append (parseAll_eq_ok_iff.mp h) (parseAll_eq_ok_iff.mp h'))

end Modifier

namespace NetworkRule

/-! ## The checks -/

/-- **What the checks let through they leave as it is.** -/
theorem validate_eq_ok_iff
    {version : HostVersion}
    {rule rule' : NetworkRule} :
    rule.validate version = .ok rule' ↔
      rule' = rule ∧ rule.isTooWide = false ∧ rule.checkRegex = .ok () ∧
        (!rule.header.isException && rule.options.hasAny exceptionOnly) = false ∧
        rule.lacksFrameScope version = false := by
  unfold validate
  cases rule.isTooWide with
  | true => simp
  | false =>
      cases rule.checkRegex with
      | error e => simp
      | ok =>
          cases !rule.header.isException && rule.options.hasAny exceptionOnly <;>
            cases rule.lacksFrameScope version <;> simp [eq_comm]

/-! ## The pattern -/

/-- **What setting a pattern comes to.**  A regex is kept as it is; of any other pattern the
host is encoded, and if something is left, it is translated. -/
theorem withPattern_cases
    [DomainEncoder]
    {rule rule' : NetworkRule}
    {pattern : String}
    (h : rule.withPattern pattern = .ok rule') :
    (∃ body, Pattern.literalRegex? pattern = some body ∧
      rule' = { rule with pattern, regex := some body }) ∨
    (Pattern.literalRegex? pattern = none ∧ ∃ encoded,
      Pattern.encodeHost pattern = some encoded ∧
        ((encoded = "" ∧ rule' = { rule with pattern := encoded, regex := none }) ∨
          (encoded ≠ "" ∧ ∃ regex, Pattern.toRegex encoded = .ok regex ∧
            rule' = { rule with pattern := encoded, regex := some regex }))) := by
  unfold withPattern at h
  split at h
  · next body hbody => exact .inl ⟨body, hbody, (Except.ok.inj h).symm⟩
  next hliteral =>
  refine .inr ⟨hliteral, ?_⟩
  split at h
  · cases h
  next encoded hencoded =>
  refine ⟨encoded, hencoded, ?_⟩
  split at h
  · next hempty => exact .inl ⟨hempty, (Except.ok.inj h).symm⟩
  next hne =>
  refine .inr ⟨hne, ?_⟩
  split at h
  · next regex hregex => exact ⟨regex, hregex, (Except.ok.inj h).symm⟩
  · cases h

/-- Setting the pattern of a rule sets its regex, and nothing else is changed. -/
theorem eq_of_withPattern
    [DomainEncoder]
    {rule rule' : NetworkRule}
    {pattern : String}
    (h : rule.withPattern pattern = .ok rule') :
    rule' = { rule with pattern := rule'.pattern, regex := Pattern.regex? rule'.pattern } := by
  rcases withPattern_cases h with
    ⟨body, hbody, rfl⟩ | ⟨hliteral, encoded, hencoded, ⟨hempty, rfl⟩ | ⟨hne, regex, hregex, rfl⟩⟩
  · have hne : pattern ≠ "" := by
      rintro rfl
      cases hbody
    simp only [Pattern.regex?, Pattern.compile, hbody, if_neg hne, Except.toOption]
  · rw [Pattern.regex?, if_pos hempty]
  · -- the pattern with its host encoded is no regex either
    have hnone : Pattern.literalRegex? encoded = none := by
      rw [← Option.not_isSome_iff_eq_none]
      intro hsome
      have hbefore := Pattern.isLiteralRegex_of_encodeHostWith hencoded hsome
      rw [Pattern.isLiteralRegex, hliteral] at hbefore
      cases hbefore
    simp only [Pattern.regex?, Pattern.compile, hnone, hregex, if_neg hne, Except.toOption]

/-- A pattern that is set and is not empty has a regex. -/
theorem compile_of_withPattern
    [DomainEncoder]
    {rule rule' : NetworkRule}
    {pattern : String}
    (h : rule.withPattern pattern = .ok rule')
    (hne : rule'.pattern ≠ "") :
    ∃ regex, rule'.regex = some regex ∧ Pattern.compile rule'.pattern = .ok regex := by
  have hregex : rule'.regex = Pattern.regex? rule'.pattern :=
    congrArg regex (eq_of_withPattern h)
  have hsome : ∃ regex, rule'.regex = some regex := by
    rcases withPattern_cases h with
      ⟨body, -, rfl⟩ | ⟨-, encoded, -, ⟨hempty, rfl⟩ | ⟨-, regex, -, rfl⟩⟩
    · exact ⟨body, rfl⟩
    · exact absurd hempty hne
    · exact ⟨regex, rfl⟩
  obtain ⟨regex, hsome⟩ := hsome
  refine ⟨regex, hsome, ?_⟩
  rw [hsome, Pattern.regex?, if_neg hne] at hregex
  cases hcompile : Pattern.compile rule'.pattern with
  | error pos =>
      rw [hcompile] at hregex
      cases hregex
  | ok found =>
      rw [hcompile] at hregex
      exact congrArg Except.ok (Option.some_inj.mp hregex).symm

/-- An ASCII pattern is kept as it is. -/
theorem pattern_of_withPattern
    [DomainEncoder]
    {rule rule' : NetworkRule}
    {pattern : String}
    (hascii : ∀ c ∈ pattern.toList, Text.isAscii c = true)
    (h : rule.withPattern pattern = .ok rule') :
    rule'.pattern = pattern := by
  rcases withPattern_cases h with
    ⟨body, -, rfl⟩ | ⟨-, encoded, hencoded, ⟨-, rfl⟩ | ⟨-, regex, -, rfl⟩⟩
  · rfl
  all_goals
    rw [Pattern.encodeHost_of_isAscii hascii] at hencoded
    exact (Option.some_inj.mp hencoded).symm

/-- What comes of a pattern does not hang on the rule that gets it. -/
theorem withPattern_congr
    [DomainEncoder]
    {rule rule' : NetworkRule}
    {pattern : String}
    (h : rule.withPattern pattern = .ok rule')
    (other : NetworkRule) :
    other.withPattern pattern =
      .ok { other with pattern := rule'.pattern, regex := rule'.regex } := by
  unfold withPattern at h ⊢
  cases hbody : Pattern.literalRegex? pattern with
  | some body =>
      simp only [hbody] at h ⊢
      cases h
      rfl
  | none =>
      cases hencoded : Pattern.encodeHost pattern with
      | none =>
          simp only [hbody, hencoded] at h
          cases h
      | some encoded =>
          simp only [hbody, hencoded] at h ⊢
          split at h
          · next hempty =>
              cases h
              rw [if_pos hempty]
          next hne =>
          rw [if_neg hne]
          cases hregex : Pattern.toRegex encoded with
          | error pos =>
              simp only [hregex] at h
              cases h
          | ok regex =>
              simp only [hregex] at h
              cases h
              rfl

/-! ## The line -/

/-- The rule of a line as its modifiers have it, before its pattern is set. -/
def ofModified (line : String) (ms : List Modifier) : NetworkRule :=
  ((blank line (RuleParts.ofLine line.toList).isException).modify ms).narrowToDocuments

/-- **What it takes for a line to be read as a rule.** -/
theorem parse_eq_ok_iff
    [DomainEncoder]
    {version : HostVersion}
    {line : String}
    {rule : NetworkRule} :
    parse version line = .ok rule ↔
      line ≠ "" ∧ ∃ ms,
        Modifier.parseAll version (optionTexts (RuleParts.ofLine line.toList).options) = .ok ms ∧
        (ofModified line ms).withPattern
          (String.ofList (RuleParts.ofLine line.toList).pattern) = .ok rule ∧
        rule.validate version = .ok rule := by
  unfold parse
  split
  · next hempty => simp [hempty]
  next hline =>
  dsimp only
  cases Modifier.parseAll version (optionTexts (RuleParts.ofLine line.toList).options) with
  | error e => simp
  | ok ms =>
      simp only [ne_eq, hline, not_false_eq_true, true_and, Except.ok.injEq, exists_eq_left']
      rw [← ofModified]
      cases (ofModified line ms).withPattern
          (String.ofList (RuleParts.ofLine line.toList).pattern) with
      | error e => simp
      | ok set =>
          simp only [Except.ok.injEq]
          constructor
          · intro hvalid
            obtain rfl := (validate_eq_ok_iff.mp hvalid).1
            exact ⟨rfl, hvalid⟩
          · rintro ⟨rfl, hvalid⟩
            exact hvalid

/-- **The regex of a rule that is read is that of its pattern.** -/
theorem regex_eq_of_parse
    [DomainEncoder]
    {version : HostVersion}
    {line : String}
    {rule : NetworkRule}
    (h : parse version line = .ok rule) :
    rule.regex = Pattern.regex? rule.pattern := by
  obtain ⟨-, ms, -, hpattern, -⟩ := parse_eq_ok_iff.mp h
  exact congrArg regex (eq_of_withPattern hpattern)

end NetworkRule
end FilterCompiler
