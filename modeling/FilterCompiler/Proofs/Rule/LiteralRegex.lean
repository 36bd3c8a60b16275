import FilterCompiler.Proofs.Ascii
import FilterCompiler.Proofs.Pattern.Dialect
import FilterCompiler.Proofs.Regex.Acceptance
import FilterCompiler.Proofs.Rule.Network
import FilterCompiler.Proofs.Rule.Parts

/-!
# Rules that are a regex

A regex between slashes is a rule, and the sign that introduces options is looked for in
it as in any other line: a `$` with no backslash directly in front of it and no slash
directly behind it.  The dialect has `$` at the end of a regex, where the slash follows,
behind backslashes, and in character classes.  Only in classes can a `$` be such a sign
(`listsDollar_of_hasOptionsSign`), but there it can.  A regex without one is a rule as it
stands, and a regex with one never is (`parse_literalRegex_iff`).
-/

namespace FilterCompiler

/-! ## The sign of options -/

/-- The text holds a `$` that may introduce options: no backslash stands directly in front
of it, and a character other than a slash stands directly behind it. -/
def HasOptionsSign (s : List Char) : Prop :=
  ∃ before c after, s = before ++ '$' :: c :: after ∧ before.getLast? ≠ some '\\' ∧ c ≠ '/'

/-- Between slashes a text is cut where it has a sign of options. -/
theorem cutOptions?_slashes_iff
    {s : List Char} :
    cutOptions? none ('/' :: (s ++ ['/'])) = none ↔ ¬ HasOptionsSign s := by
  rw [cutOptions?_eq_none_iff]
  constructor
  · rintro h ⟨before, c, after, rfl, hlast, hc⟩
    have hhead := h ('/' :: before) (c :: (after ++ ['/'])) (by simp) (by
      rw [getLast?_cons_or]
      cases hbefore : before.getLast? with
      | none => decide
      | some d => rwa [Option.some_or, ← hbefore])
    exact hc (Option.some_inj.mp hhead)
  · intro hsign pattern options h hlast
    cases pattern with
    | nil => cases h
    | cons d pattern =>
        rw [List.cons_append] at h
        obtain ⟨rfl, htail⟩ := List.cons.inj h
        rw [getLast?_cons_or] at hlast
        -- the last slash is behind the sign
        rcases List.eq_nil_or_concat options with rfl | ⟨options, e, rfl⟩
        · exact absurd (List.append_inj' htail rfl).2 (by decide)
        · rw [List.concat_eq_append, ← List.cons_append, ← List.append_assoc] at htail
          obtain ⟨rfl, he⟩ := List.append_inj' htail rfl
          cases options with
          | nil =>
              rw [List.concat_eq_append, List.nil_append, ← he]
              rfl
          | cons c after =>
              by_contra hhead
              refine hsign ⟨pattern, c, after, rfl, fun hbackslash => hlast ?_, fun hc => hhead ?_⟩
              · rw [hbackslash, Option.some_or]
              · rw [hc]
                rfl

instance (s : List Char) : Decidable (HasOptionsSign s) :=
  decidable_of_iff (¬ cutOptions? none ('/' :: (s ++ ['/'])) = none) (by
    rw [cutOptions?_slashes_iff, not_not])

/-! ## Dollars in classes -/

namespace Regex

/-- The class, or one inside of it, lists a `$` without a backslash of its own. -/
def ClassBody.ListsDollar : ClassBody → Prop
  | nil => False
  | plain c _ rest => c = '$' ∨ rest.ListsDollar
  | escape _ _ rest => rest.ListsDollar
  | nested inner rest => inner.ListsDollar ∨ rest.ListsDollar

/-- Some class of the items lists a `$`. -/
def Items.ListsDollar : Items → Prop
  | nil => False
  | plain _ _ _ rest => rest.ListsDollar
  | escape _ _ _ rest => rest.ListsDollar
  | group inner _ rest => inner.ListsDollar ∨ rest.ListsDollar
  | charClass body _ rest => body.ListsDollar ∨ rest.ListsDollar

/-- The source is in the dialect, and some class in it lists a `$`. -/
def ListsDollar (source : String) : Prop :=
  ∃ t : Source, t.text = source.toList ∧ t.items.ListsDollar

/-- A backslash stands directly in front of every `$` of the text. -/
def DollarsEscaped (s : List Char) : Prop :=
  ∀ before after, s = before ++ '$' :: after → before.getLast? = some '\\'

theorem dollarsEscaped_of_notMem
    {s : List Char}
    (h : '$' ∉ s) :
    DollarsEscaped s := by
  rintro before after rfl
  exact absurd (List.mem_append_right _ List.mem_cons_self) h

theorem dollarsEscaped_escape (e : Char) : DollarsEscaped ['\\', e] := by
  intro before after h
  match before with
  | [] => cases h
  | [c] =>
      obtain ⟨rfl, -⟩ := List.cons.inj h
      rfl
  | c :: d :: before => simp at h

theorem DollarsEscaped.append
    {s t : List Char}
    (hs : DollarsEscaped s)
    (ht : DollarsEscaped t) :
    DollarsEscaped (s ++ t) := by
  intro before after h
  rcases List.append_eq_append_iff.mp h with ⟨more, rfl, rfl⟩ | ⟨more, rfl, hmore⟩
  · rw [List.getLast?_append, ht more after rfl, Option.some_or]
  · cases more with
    | nil =>
        -- the `$` would begin the second text
        have hlast := ht [] after hmore.symm
        cases hlast
    | cons c more =>
        obtain ⟨rfl, -⟩ := List.cons.inj hmore
        exact hs before more rfl

theorem DollarsEscaped.cons
    {c : Char}
    {s : List Char}
    (hc : c ≠ '$')
    (hs : DollarsEscaped s) :
    DollarsEscaped (c :: s) :=
  (dollarsEscaped_of_notMem (mt List.mem_singleton.mp hc.symm)).append hs

theorem DollarsEscaped.quantified
    (q : Option Quantifier)
    {s : List Char}
    (hs : DollarsEscaped s) :
    DollarsEscaped (quantifierText q ++ s) := by
  refine (dollarsEscaped_of_notMem ?_).append hs
  rcases q with _ | _ | _ | _ <;> decide

/-- A class that lists no `$` has escaped ones only. -/
theorem ClassBody.dollarsEscaped_text
    {body : ClassBody}
    (h : ¬ body.ListsDollar) :
    DollarsEscaped body.text := by
  induction body with
  | nil => exact dollarsEscaped_of_notMem List.not_mem_nil
  | plain c hc rest ih =>
      obtain ⟨hdollar, hrest⟩ := not_or.mp h
      exact (ih hrest).cons hdollar
  | escape e he rest ih => exact (dollarsEscaped_escape e).append (ih h)
  | nested inner rest ihInner ihRest =>
      obtain ⟨hinner, hrest⟩ := not_or.mp h
      have hclosed := (ihInner hinner).append ((ihRest hrest).cons (c := ']') (by decide))
      exact hclosed.cons (by decide)

/-- Outside of classes a list of items has escaped dollars only. -/
theorem Items.dollarsEscaped_text
    {items : Items}
    (h : ¬ items.ListsDollar) :
    DollarsEscaped items.text := by
  induction items with
  | nil => exact dollarsEscaped_of_notMem List.not_mem_nil
  | plain c hc q rest ih =>
      exact ((ih h).quantified q).cons (ne_of_isPlain hc (by decide))
  | escape e he q rest ih =>
      exact (dollarsEscaped_escape e).append ((ih h).quantified q)
  | group inner q rest ihInner ihRest =>
      obtain ⟨hinner, hrest⟩ := not_or.mp h
      have hclosed := ((ihRest hrest).quantified q).cons (c := ')') (by decide)
      exact ((ihInner hinner).append hclosed).cons (by decide)
  | charClass body q rest ih =>
      obtain ⟨hbody, hrest⟩ := not_or.mp h
      have hclosed := ((ih hrest).quantified q).cons (c := ']') (by decide)
      exact ((ClassBody.dollarsEscaped_text hbody).append hclosed).cons (by decide)

/-- **In the dialect only classes have a sign of options.** -/
theorem listsDollar_of_hasOptionsSign
    {source : String}
    (hcheck : check source = .ok ())
    (h : HasOptionsSign source.toList) :
    ListsDollar source := by
  obtain ⟨t, ht⟩ := (check_eq_ok_iff_source source).mp hcheck
  refine ⟨t, ht, ?_⟩
  by_contra hnone
  obtain ⟨before, c, after, hsign, hlast, -⟩ := h
  rw [← ht, Source.text] at hsign
  have hescaped : DollarsEscaped (optional '^' t.isAnchored ++ t.items.text) := by
    refine (dollarsEscaped_of_notMem ?_).append (Items.dollarsEscaped_text hnone)
    cases t.isAnchored <;> decide
  cases hended : t.isEnded with
  | false =>
      have hnothing : optional '$' false = [] := rfl
      rw [hended, hnothing, List.append_nil] at hsign
      exact hlast (hescaped before (c :: after) hsign)
  | true =>
      -- a character follows the sign, so the sign is not the anchor at the end
      have hanchor : optional '$' true = ['$'] := rfl
      rw [hended, hanchor] at hsign
      rcases List.eq_nil_or_concat (c :: after) with hnil | ⟨init, d, hinit⟩
      · cases hnil
      · rw [hinit, List.concat_eq_append, ← List.cons_append, ← List.append_assoc] at hsign
        exact hlast (hescaped before init (List.append_inj' hsign rfl).1)

end Regex

namespace NetworkRule

/-! ## The line -/

/-- The rule of a pattern that is a regex. -/
def ofRegex (body : String) : NetworkRule :=
  let line := "/" ++ body ++ "/"
  { blank line false with pattern := line, regex := some body }

theorem toList_slashes (body : String) :
    ("/" ++ body ++ "/").toList = '/' :: (body.toList ++ ['/']) := by
  simp

theorem allAscii_slashes
    {body : String}
    (hcheck : Regex.check body = .ok ()) :
    Text.AllAscii ('/' :: (body.toList ++ ['/'])) := by
  have hslash : Text.AllAscii ['/'] := by decide
  rw [← List.singleton_append, Text.allAscii_append, Text.allAscii_append]
  exact ⟨hslash, Regex.allAscii_of_check hcheck, hslash⟩

theorem cutException_slash (s : List Char) : cutException ('/' :: s) = (false, '/' :: s) :=
  cutException_of_unsigned (by rintro ⟨rest, h⟩; cases h)

/-- Without options a line leaves the rule blank. -/
theorem ofModified_nil (line : String) :
    ofModified line [] = blank line (RuleParts.ofLine line.toList).isException := by
  have hlevel : PageOptions.none.hasAny documentLevel = false := by decide
  rw [ofModified, modify, List.foldl_nil, narrowToDocuments, if_neg]
  rintro ⟨hany, -⟩
  exact Bool.false_ne_true (hlevel.symm.trans hany)

/-- The rule of a regex passes the checks. -/
theorem validate_ofRegex
    (version : HostVersion)
    {body : String}
    (hne : body ≠ "")
    (hcheck : Regex.check body = .ok ()) :
    (ofRegex body).validate version = .ok (ofRegex body) := by
  have hoptions : PageOptions.none.hasAny exceptionOnly = false := by decide
  have hlong : ¬ Text.byteLength ("/" ++ body ++ "/").toList < 3 := by
    have hlength := List.length_pos_iff.mpr (String.toList_eq_nil_iff.not.mpr hne)
    rw [toList_slashes, Text.byteLength_of_isAscii (allAscii_slashes hcheck)]
    simp only [List.length_cons, List.length_append, List.length_nil]
    omega
  refine validate_eq_ok_iff.mpr ⟨rfl, ?_, ?_, ?_, ?_⟩
  · rw [isTooWide, ofRegex, decide_eq_false hlong, Bool.false_and]
  · simp only [checkRegex, ofRegex, hcheck]
  · simp only [ofRegex, blank, hoptions, Bool.and_false]
  · simp [lacksFrameScope, ofRegex, blank]

/-- What is in the dialect and holds no sign of options is a rule as it stands. -/
theorem parse_ofRegex
    (version : HostVersion)
    {body : String}
    (hne : body ≠ "")
    (hcheck : Regex.check body = .ok ())
    (hsign : ¬ HasOptionsSign body.toList) :
    parse version ("/" ++ body ++ "/") = .ok (ofRegex body) := by
  have hparts : RuleParts.ofLine ("/" ++ body ++ "/").toList =
      { isException := false, pattern := ("/" ++ body ++ "/").toList, options := none } := by
    rw [RuleParts.ofLine, toList_slashes, cutException_slash]
    dsimp only
    rw [cutOptions?_slashes_iff.mpr hsign]
  have hliteral : Pattern.literalRegex? ("/" ++ body ++ "/") = some body :=
    Pattern.literalRegex?_eq_some_iff.mpr ⟨hne, toList_slashes body⟩
  rw [parse_eq_ok_iff, hparts]
  refine ⟨?_, [], ?_, ?_, validate_ofRegex version hne hcheck⟩
  · rw [Ne, ← String.toList_eq_nil_iff, toList_slashes]
    exact List.cons_ne_nil _ _
  · rw [optionTexts, Modifier.parseAll]
  · rw [ofModified_nil, hparts, String.ofList_toList, withPattern, hliteral, ofRegex]

/-- A sign of options in a regex ends the pattern. -/
theorem isPrefix_of_parse
    {version : HostVersion}
    {body : String}
    {rule : NetworkRule}
    (hcheck : Regex.check body = .ok ())
    (hsign : HasOptionsSign body.toList)
    (h : parse version ("/" ++ body ++ "/") = .ok rule) :
    rule.pattern.toList ++ ['$'] <+: ("/" ++ body ++ "/").toList := by
  obtain ⟨-, ms, -, hpattern, -⟩ := parse_eq_ok_iff.mp h
  obtain ⟨⟨pattern, options⟩, hcut⟩ :=
    Option.ne_none_iff_exists'.mp (mt cutOptions?_slashes_iff.mp (not_not_intro hsign))
  have hline := (cutOptions?_eq_some_iff.mp hcut).1
  have hparts : (RuleParts.ofLine ("/" ++ body ++ "/").toList).pattern = pattern := by
    rw [RuleParts.ofLine, toList_slashes, cutException_slash]
    dsimp only
    rw [hcut]
  have hascii : Text.AllAscii pattern := by
    have hall := allAscii_slashes hcheck
    rw [hline, Text.allAscii_append] at hall
    exact hall.1
  rw [hparts] at hpattern
  rw [pattern_of_withPattern (by rwa [String.toList_ofList]) hpattern, toList_slashes, hline,
    String.toList_ofList]
  exact ⟨options, by simp⟩

/-- **A regex between slashes is a rule as it stands if and only if it holds no sign of
options.**  A sign that it holds stands in a character class, and then the pattern of the
rule, if there is a rule at all, ends in front of a sign. -/
theorem parse_literalRegex_iff
    (version : HostVersion)
    {body : String}
    (hne : body ≠ "")
    (hcheck : Regex.check body = .ok ()) :
    let line := "/" ++ body ++ "/"
    (parse version line =
        .ok { blank line false with pattern := line, regex := some body } ↔
      ¬ HasOptionsSign body.toList) ∧
    (HasOptionsSign body.toList →
      Regex.ListsDollar body ∧
        ∀ rule, parse version line = .ok rule → rule.pattern.toList ++ ['$'] <+: line.toList) := by
  intro line
  refine ⟨⟨fun h hsign => ?_, parse_ofRegex version hne hcheck⟩, fun hsign =>
    ⟨Regex.listsDollar_of_hasOptionsSign hcheck hsign, fun rule => isPrefix_of_parse hcheck hsign⟩⟩
  have hlength := (isPrefix_of_parse hcheck hsign h).length_le
  rw [List.length_append, List.length_singleton] at hlength
  exact absurd hlength (Nat.not_succ_le_self _)

/-- Dollars at the end, behind a backslash, and in a class in front of a slash. -/
theorem parse_literalRegex_dollars :
    let body := "^ad[0-9$/]\\$x$"
    let line := "/" ++ body ++ "/"
    body ≠ "" ∧ Regex.check body = .ok () ∧ ¬ HasOptionsSign body.toList ∧
      parse .v13 line = .ok { blank line false with pattern := line, regex := some body } := by
  intro body line
  have hne : body ≠ "" := by decide
  have hcheck : Regex.check body = .ok () := by decide +kernel
  have hsign : ¬ HasOptionsSign body.toList := by decide +kernel
  exact ⟨hne, hcheck, hsign, (parse_literalRegex_iff .v13 hne hcheck).1.mpr hsign⟩

/-- A class of a dollar is cut in two, and its end read as an option. -/
theorem parse_literalRegex_class :
    let body := "[$]"
    body ≠ "" ∧ Regex.check body = .ok () ∧
      parse .v16_4 ("/" ++ body ++ "/") = .error (.unknownNetworkOption "]/") := by
  decide +kernel

end NetworkRule
end FilterCompiler
