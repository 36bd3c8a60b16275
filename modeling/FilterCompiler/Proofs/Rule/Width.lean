import FilterCompiler.Proofs.Pattern.Dialect
import FilterCompiler.Proofs.Regex.Meaning
import FilterCompiler.Proofs.Rule.Exemption
import FilterCompiler.Proofs.Rule.WellFormed

/-!
# How wide a rule on all domains is

A rule that applies on all domains is refused if its pattern has fewer than three bytes,
and nothing else is asked of its width.  A longer pattern that is made of stars, separators,
colons and slashes can still match every URL, and it does if its regex matches `a://b/c`:
the parts of any other URL can take the places of the letters in a match
(`matchesEveryUrl_iff`).  Hence `***` is a rule for all requests (`width_of_parse_stars`).
-/

namespace FilterCompiler

/-- The regex matches every URL with a path. -/
def Regex.MatchesEveryUrl (regex : String) : Prop :=
  ∀ url : PathUrl, '\n' ∉ url.text.toList → Matches regex url.text

/-! ## The URL of letters -/

namespace PathUrl

/-- The URL that has these parts, of one letter each. -/
def ofLetters (scheme host rest : Char)
    (hscheme : scheme ≠ ':')
    (hhost : Domain.isNameChar host) : PathUrl where
  scheme := String.singleton scheme
  host := String.singleton host
  rest := String.singleton rest
  scheme_ne_empty := by simp
  colon_notMem_scheme := by simpa using hscheme.symm
  host_ne_empty := by simp
  isNameChar_of_mem := by simpa using hhost

/-- The part of the URL that takes the place of a letter of `a://b/c`. -/
def fill (url : PathUrl) (c : Char) : List Char :=
  if c = 'a' then url.scheme.toList
  else if c = 'b' then url.host.toList
  else if c = 'c' then url.rest.toList
  else [c]

variable {url : PathUrl}

theorem flatMap_fill (url : PathUrl) : "a://b/c".toList.flatMap url.fill = url.text.toList := by
  rw [toList_text]
  simp [fill]

/-- Signs stay as they are. -/
theorem fill_of_mem
    {c : Char}
    (hc : c ∈ ['/', ':', '&', '?']) :
    url.fill c = [c] := by
  simp only [List.mem_cons, List.not_mem_nil, or_false] at hc
  rcases hc with rfl | rfl | rfl | rfl <;> rfl

theorem newline_notMem_fill
    (hurl : '\n' ∉ url.text.toList)
    {c : Char}
    (hc : c ≠ '\n') :
    '\n' ∉ url.fill c := by
  rw [toList_text] at hurl
  simp only [List.mem_append, List.mem_cons, not_or] at hurl
  unfold fill
  split_ifs
  · exact hurl.1
  · exact hurl.2.2.2.2.1
  · exact hurl.2.2.2.2.2.2
  · exact mt List.mem_singleton.mp hc.symm

end PathUrl

namespace Pattern

open Regex (MatchesEveryUrl)

/-! ## Matches of other URLs -/

section Fill

variable {url : PathUrl}

/-- What a piece that is no literal letter matches, it matches with letters filled in. -/
theorem Piece.Matches.fill
    (hurl : '\n' ∉ url.text.toList)
    {p : Piece}
    (hp : ∀ c, p = .literal c → c = ':' ∨ c = '/')
    {y : List Char}
    (h : p.Matches y) :
    p.Matches (y.flatMap url.fill) := by
  have hsign : ∀ c ∈ ['/', ':', '&', '?'], [c].flatMap url.fill = [c] := by
    intro c hc
    rw [List.flatMap_singleton, PathUrl.fill_of_mem hc]
  cases p with
  | wildcard =>
      intro hmem
      obtain ⟨c, hc, hfill⟩ := List.mem_flatMap.mp hmem
      exact PathUrl.newline_notMem_fill hurl (ne_of_mem_of_not_mem hc h) hfill
  | hostEnd =>
      rcases h with rfl | rfl
      · exact .inl (hsign '/' (by simp))
      · exact .inr (hsign ':' (by simp))
  | separator =>
      obtain ⟨c, hc, rfl⟩ := h
      exact ⟨c, hc, hsign c hc⟩
  | finalSeparator =>
      rcases h with rfl | ⟨c, hc, rfl⟩
      · exact .inl rfl
      · exact .inr ⟨c, hc, hsign c hc⟩
  | literal c =>
      obtain rfl : y = [c] := h
      refine hsign c ?_
      rcases hp c rfl with rfl | rfl <;> simp

/-- A match of pieces without literal letters stays one with letters filled in. -/
theorem PiecesMatch.fill
    (hurl : '\n' ∉ url.text.toList)
    {pieces : List Piece}
    (hpieces : ∀ c, .literal c ∈ pieces → c = ':' ∨ c = '/')
    {y : List Char}
    (h : PiecesMatch pieces y) :
    PiecesMatch pieces (y.flatMap url.fill) := by
  induction pieces generalizing y with
  | nil =>
      obtain rfl : y = [] := h
      rfl
  | cons p pieces ih =>
      obtain ⟨y₁, y₂, rfl, hp, hrest⟩ := h
      refine ⟨y₁.flatMap url.fill, y₂.flatMap url.fill, List.flatMap_append, hp.fill hurl ?_,
        ih (fun c hc => hpieces c (List.mem_cons_of_mem _ hc)) hrest⟩
      rintro c rfl
      exact hpieces c List.mem_cons_self

/-- What stands in front of a match in `a://b/c` may do so with letters filled in. -/
theorem Lead.Allows.fill
    {lead : Lead}
    {x y : List Char}
    (hcut : "a://b/c".toList = x ++ y)
    (h : lead.Allows x) :
    lead.Allows (x.flatMap url.fill) := by
  cases lead with
  | none => trivial
  | start =>
      obtain rfl : x = [] := h
      rfl
  | host =>
      have hparts : ['a'] ++ ':' :: '/' :: '/' :: ['b', '/', 'c'] = x ++ y := hcut
      obtain ⟨labels, hlabels, hafter⟩ :=
        exists_labels_of_isHostLead (by decide) (by decide) hparts h
      -- no dot follows the slashes, so no label does
      obtain rfl : labels = [] := by
        rcases hlabels with rfl | ⟨label, rfl, -⟩
        · rfl
        · have hdot : '.' ∈ ['b', '/', 'c'] := by
            rw [hafter]
            simp
          exact absurd hdot (by decide)
      obtain rfl : y = ['b', '/', 'c'] := hafter.symm
      obtain rfl : x = "a://".toList := List.append_cancel_right hcut.symm
      have hlead := isHostLead_append_labels url.scheme_ne_empty url.colon_notMem_scheme
        (show IsLabels [] from .inl rfl)
      show IsHostLead _
      simpa [PathUrl.fill] using hlead

end Fill

/-! ## Letters of a pattern -/

/-- The literal pieces of a body are its characters other than stars and separators. -/
theorem literal_mem_piecesFrom_iff
    (isHost isEnded : Bool)
    (before body : List Char)
    {c : Char} :
    .literal c ∈ piecesFrom isHost isEnded before body ↔ c ∈ body ∧ c ≠ '*' ∧ c ≠ '^' := by
  have hpiece (inHost isLast : Bool) (d : Char) :
      .literal c = Piece.ofChar inHost isLast d ↔ c = d ∧ c ≠ '*' ∧ c ≠ '^' := by
    unfold Piece.ofChar
    split_ifs <;> simp_all
  induction body generalizing before with
  | nil => simp [piecesFrom]
  | cons d body ih =>
      rw [piecesFrom, List.mem_cons, List.mem_cons, hpiece, or_and_right]
      exact or_congr_right (ih (before ++ [d]))

/-- A literal piece is found in every match. -/
theorem mem_of_piecesMatch
    {pieces : List Piece}
    {c : Char}
    (hc : .literal c ∈ pieces)
    {y : List Char}
    (h : PiecesMatch pieces y) :
    c ∈ y := by
  induction pieces generalizing y with
  | nil => cases hc
  | cons p pieces ih =>
      obtain ⟨y₁, y₂, rfl, hp, hrest⟩ := h
      rw [List.mem_append]
      rcases List.mem_cons.mp hc with rfl | hc
      · obtain rfl : y₁ = [c] := hp
        exact .inl List.mem_cons_self
      · exact .inr (ih hc hrest)

/-- The body of the pattern consists of stars, separators, colons and slashes. -/
def IsOfSigns (pattern : String) : Prop :=
  ∀ c ∈ (Parts.ofPattern pattern.toList).body, c ∈ ['*', '^', ':', '/']

instance (pattern : String) : Decidable (IsOfSigns pattern) :=
  decidable_of_iff ((Parts.ofPattern pattern.toList).body.all (['*', '^', ':', '/'].contains ·)) (by
    simp only [List.all_eq_true, List.contains_iff_mem, IsOfSigns])

theorem isOfSigns_iff
    {pattern : String} :
    IsOfSigns pattern ↔
      ∀ c, .literal c ∈ (Parts.ofPattern pattern.toList).pieces → c = ':' ∨ c = '/' := by
  simp only [IsOfSigns, Parts.pieces, literal_mem_piecesFrom_iff, List.mem_cons, List.not_mem_nil,
    or_false]
  exact forall_congr' fun c => by tauto

/-- The short patterns that match every URL have no literals. -/
theorem isOfSigns_of_mem
    {pattern : String}
    (h : pattern ∈ ["", "*", "|", "||"]) :
    IsOfSigns pattern := by
  have hall : ∀ pattern ∈ ["", "*", "|", "||"], IsOfSigns pattern := by decide
  exact hall pattern h

/-- **A pattern matches every URL if and only if it is of signs and matches one URL of
letters.** -/
theorem matchesEveryUrl_iff
    {pattern regex : String}
    (hregex : toRegex pattern = .ok regex) :
    MatchesEveryUrl regex ↔ IsOfSigns pattern ∧ Regex.Matches regex "a://b/c" := by
  simp only [MatchesEveryUrl, matches_iff_of_toRegex hregex]
  constructor
  · intro h
    have habc := h (.ofLetters 'a' 'b' 'c' (by decide) (by decide)) (by decide)
    have hdef := h (.ofLetters 'd' 'e' 'f' (by decide) (by decide)) (by decide)
    refine ⟨?_, habc⟩
    rcases habc with hshort | ⟨x, y, z, hcut, -, hy, -⟩
    · exact isOfSigns_of_mem hshort
    rcases hdef with hshort | ⟨x', y', z', hcut', -, hy', -⟩
    · exact isOfSigns_of_mem hshort
    -- a literal is found in both URLs
    rw [isOfSigns_iff]
    intro c hc
    have hmem : c ∈ "a://b/c".toList := by
      rw [show "a://b/c".toList = _ from hcut]
      exact List.mem_append_left _ (List.mem_append_right _ (mem_of_piecesMatch hc hy))
    have hmem' : c ∈ "d://e/f".toList := by
      rw [show "d://e/f".toList = _ from hcut']
      exact List.mem_append_left _ (List.mem_append_right _ (mem_of_piecesMatch hc hy'))
    have hboth := List.all_eq_true.mp
      (show "a://b/c".toList.all
        (fun c => decide (c ∈ "d://e/f".toList → c = ':' ∨ c = '/')) from rfl) c hmem
    exact of_decide_eq_true hboth hmem'
  · rintro ⟨hsigns, hmatches⟩ url hurl
    rcases hmatches with hshort | ⟨x, y, z, hcut, hlead, hy, hz⟩
    · exact .inl hshort
    · refine .inr ⟨x.flatMap url.fill, y.flatMap url.fill, z.flatMap url.fill, ?_, ?_,
        hy.fill hurl (isOfSigns_iff.mp hsigns), fun hended => ?_⟩
      · rw [← url.flatMap_fill, hcut, List.flatMap_append, List.flatMap_append]
      · rw [List.append_assoc] at hcut
        exact hlead.fill hcut
      · rw [hz hended]
        rfl

/-! ## Stars -/

/-- The regex consists of copies of the one that every URL matches. -/
def IsMatchAlls (regex : String) : Prop :=
  ∃ n, regex.toList = (List.replicate n matchAll.toList).flatten

/-- Only a star is written with a dot in front. -/
theorem head?_written_iff
    {inHost isLast : Bool}
    {c : Char} :
    (written inHost c isLast).head? = some '.' ↔ c = '*' := by
  unfold written
  split_ifs with hescaped hbar hlast hcaret hhost hlast hstar
  · refine ⟨fun h => absurd (Option.some_inj.mp h) (by decide), ?_⟩
    rintro rfl
    exact absurd hescaped (by decide)
  · simp [hbar]
  · simp [hbar]
  · simp [hcaret, hostSeparator]
  · simp [hcaret, endSeparator]
  · simp [hcaret, separator]
  · simp [hstar, matchAll]
  · simp only [List.head?_cons, Option.some_inj, hstar, iff_false]
    exact fun hdot => hescaped (.inl hdot)

theorem written_ne_nil
    (inHost isLast : Bool)
    (c : Char) :
    written inHost c isLast ≠ [] := by
  unfold written
  split_ifs <;> simp [hostSeparator, endSeparator, separator, matchAll]

/-- Copies of `.*` are written for stars only. -/
theorem regexFrom_eq_matchAlls_iff
    {s : List Char}
    (hascii : ∀ c ∈ s, Text.isAscii c = true)
    (pos : Nat)
    {n : Nat} :
    regexFrom pos false s = .ok (List.replicate n matchAll.toList).flatten ↔
      s = List.replicate n '*' := by
  induction s generalizing pos n with
  | nil => cases n <;> simp [regexFrom, matchAll]
  | cons c s ih =>
      rw [List.forall_mem_cons] at hascii
      rw [regexFrom_cons _ _ _ hascii.1, Bool.false_and]
      cases n with
      | zero =>
          cases hrest : regexFrom (pos + 1) false s with
          | error e => simp [emit]
          | ok regex => simp [emit, written_ne_nil]
      | succ n =>
          rw [List.replicate_succ, List.replicate_succ, List.flatten_cons, List.cons.injEq]
          constructor
          · intro h
            cases hrest : regexFrom (pos + 1) false s with
            | error e =>
                rw [hrest] at h
                cases h
            | ok regex =>
                rw [hrest, emit, Except.ok.injEq] at h
                have hhead : (written false c s.isEmpty).head? = some '.' := by
                  rw [← List.head?_append_of_ne_nil _ (written_ne_nil _ _ _), h]
                  rfl
                obtain rfl : c = '*' := head?_written_iff.mp hhead
                refine ⟨rfl, (ih hascii.2 _).mp (hrest.trans (congrArg _ ?_))⟩
                exact List.append_cancel_left h
          · rintro ⟨rfl, hs⟩
            rw [(ih hascii.2 _).mpr hs]
            rfl

/-- A regex that is anchored at the start is no copy of `.*`. -/
theorem not_isMatchAlls_of_emit
    {w text : List Char}
    {regex : Except Nat (List Char)}
    (hw : w.head? = some '^')
    (h : emit w regex = .ok text) :
    ¬ IsMatchAlls (String.ofList text) := by
  cases regex with
  | error e => cases h
  | ok rest =>
      rw [emit, Except.ok.injEq] at h
      rintro ⟨n, hn⟩
      have hhead := congrArg List.head? hn
      rw [String.toList_ofList, ← h, List.head?_append, hw] at hhead
      cases n <;> simp [matchAll, List.replicate_succ] at hhead

/-- **A regex consists of copies of `.*` if and only if its pattern consists of stars.** -/
theorem isMatchAlls_iff
    {pattern regex : String}
    (hlong : pattern ∉ ["", "*", "|", "||"])
    (hregex : toRegex pattern = .ok regex) :
    IsMatchAlls regex ↔ ∃ n, pattern.toList = List.replicate n '*' := by
  have hascii := isAscii_of_toRegex hregex
  have hbar {rest : List Char} : ¬ ∃ n, '|' :: rest = List.replicate n '*' := by
    rintro ⟨n, hn⟩
    cases n <;> simp [List.replicate_succ] at hn
  rw [toRegex, if_neg (by simpa using hlong)] at hregex
  obtain ⟨text, htext, rfl⟩ : ∃ text, regexOf pattern.toList = .ok text ∧
      String.ofList text = regex := by
    cases h : regexOf pattern.toList with
    | error e =>
        rw [h] at hregex
        cases hregex
    | ok text =>
        rw [h] at hregex
        exact ⟨text, rfl, by simpa [Except.map] using hregex⟩
  unfold regexOf at htext
  split at htext
  · next hpattern =>
      rw [hpattern]
      exact iff_of_false (not_isMatchAlls_of_emit rfl htext) hbar
  · next hpattern =>
      rw [hpattern]
      exact iff_of_false (not_isMatchAlls_of_emit rfl htext) hbar
  · simp only [IsMatchAlls, String.toList_ofList, ← regexFrom_eq_matchAlls_iff hascii 0,
      htext, Except.ok.injEq]

end Pattern

/-! ## Regexes -/

namespace Regex

/-- A tree that is not anchored at both ends matches every text if and only if it matches
the empty one. -/
theorem Source.matches_all_iff
    {t : Source}
    (hfree : ¬ (t.isAnchored ∧ t.isEnded)) :
    (∀ text, t.Matches text) ↔ t.Matches [] := by
  refine ⟨fun h => h [], ?_⟩
  rintro ⟨x, y, z, hcut, hy, -, -⟩ text
  obtain ⟨rfl, rfl, rfl⟩ : x = [] ∧ y = [] ∧ z = [] := by
    simpa using hcut.symm
  -- the empty match stands at an end that is not anchored
  cases hanchored : t.isAnchored with
  | false => exact ⟨text, [], [], by simp, hy, by simp [hanchored], by simp⟩
  | true =>
      have hended : ¬ t.isEnded := fun hended => hfree ⟨hanchored, hended⟩
      exact ⟨[], [], text, by simp, hy, by simp, fun h => absurd h hended⟩

/-- **A regex that is not anchored at both ends matches every text if and only if it
matches the empty one.** -/
theorem matches_all_iff
    {regex : String}
    (hcheck : check regex = .ok ())
    (hfree : ¬ (regex.toList.head? = some '^' ∧ regex.toList.getLast? = some '$')) :
    (∀ text, Matches regex text) ↔ Matches regex "" := by
  obtain ⟨t, ht⟩ := (check_eq_ok_iff_source regex).mp hcheck
  have htree : ¬ (t.isAnchored ∧ t.isEnded) := by
    rintro ⟨hanchored, hended⟩
    rw [← ht, Source.text, hanchored, hended] at hfree
    exact hfree ⟨rfl, List.getLast?_concat⟩
  simp only [matches_iff_of_text ht]
  rw [String.toList_empty, ← Source.matches_all_iff htree]
  exact ⟨fun h text => by simpa using h (String.ofList text), fun h text => h text.toList⟩

end Regex

namespace NetworkRule

open Pattern (IsOfSigns IsMatchAlls)
open Regex (MatchesEveryUrl)

/-! ## Rules -/

/-- **How wide a rule on all domains can be.**  Its pattern has at least three bytes and a
regex.  A pattern that is no regex itself matches every URL if and only if it is of signs
and matches `a://b/c`, and its regex consists of copies of `.*` if and only if it consists
of stars.  A pattern that is a regex is not looked at any further, and if it is not
anchored at both ends, it matches every text if and only if it matches the empty one. -/
theorem width_of_parse
    {version : HostVersion}
    {line : String}
    {rule : NetworkRule}
    (h : parse version line = .ok rule)
    (hscope : rule.header.scope.permitted = []) :
    3 ≤ Text.byteLength rule.pattern.toList ∧
      ∃ regex, rule.regex = some regex ∧
        (¬ rule.isRegexRule →
          (MatchesEveryUrl regex ↔ IsOfSigns rule.pattern ∧ Regex.Matches regex "a://b/c") ∧
          (IsMatchAlls regex ↔ ∃ n, rule.pattern.toList = List.replicate n '*')) ∧
        (rule.isRegexRule →
          rule.pattern = "/" ++ regex ++ "/" ∧
          (¬ (regex.toList.head? = some '^' ∧ regex.toList.getLast? = some '$') →
            ((∀ text, Regex.Matches regex text) ↔ Regex.Matches regex ""))) := by
  obtain ⟨-, ms, -, hpattern, hvalid⟩ := parse_eq_ok_iff.mp h
  obtain ⟨-, hwide, hcheck, -, -⟩ := validate_eq_ok_iff.mp hvalid
  have hlength : 3 ≤ Text.byteLength rule.pattern.toList := by
    rw [isTooWide, hscope, List.isEmpty_nil, Bool.and_true, decide_eq_false_iff_not] at hwide
    exact Nat.not_lt.mp hwide
  have hlong : rule.pattern ∉ ["", "*", "|", "||"] := by
    have hshort : ∀ pattern ∈ ["", "*", "|", "||"], Text.byteLength pattern.toList < 3 := by decide
    exact fun hmem => Nat.not_lt.mpr hlength (hshort _ hmem)
  obtain ⟨regex, hregex, hcompile⟩ :=
    compile_of_withPattern hpattern fun hempty => hlong (by simp [hempty])
  rw [Pattern.compile] at hcompile
  refine ⟨hlength, regex, hregex, fun hplain => ?_, fun hliteral => ?_⟩
  · rw [isRegexRule, Pattern.isLiteralRegex, Option.not_isSome_iff_eq_none] at hplain
    rw [hplain] at hcompile
    exact ⟨Pattern.matchesEveryUrl_iff hcompile, Pattern.isMatchAlls_iff hlong hcompile⟩
  · obtain ⟨body, hbody⟩ := Option.isSome_iff_exists.mp hliteral
    rw [hbody] at hcompile
    obtain rfl : body = regex := Except.ok.inj hcompile
    have hfilter := check_urlFilter hcheck
    rw [urlFilter, hregex] at hfilter
    refine ⟨?_, Regex.matches_all_iff hfilter⟩
    rw [← String.toList_inj, (Pattern.literalRegex?_eq_some_iff.mp hbody).2]
    simp

/-- A pattern with a name in it does not match every URL. -/
theorem width_of_parse_host :
    ∃ rule, parse .v13 "||ads.example^" = .ok rule ∧ rule.header.scope.permitted = [] ∧
      ¬ rule.isRegexRule ∧ ¬ IsOfSigns rule.pattern ∧
      ∃ regex, rule.regex = some regex ∧ ¬ MatchesEveryUrl regex := by
  have hparse : parse .v13 "||ads.example^" = .ok
      { blank "||ads.example^" false with
        pattern := "||ads.example^"
        regex := some "^[^:]+://+([^:/]+\\.)?ads\\.example[/:]" } := by decide +kernel
  have hplain : Pattern.isLiteralRegex "||ads.example^" = false := by decide
  have hsigns : ¬ IsOfSigns "||ads.example^" := by decide
  obtain ⟨-, regex, hregex, hwide, -⟩ := width_of_parse hparse rfl
  refine ⟨_, hparse, rfl, Bool.eq_false_iff.mp hplain, hsigns, regex, hregex, fun hall => ?_⟩
  exact hsigns ((hwide (Bool.eq_false_iff.mp hplain)).1.mp hall).1

/-- Three stars are a rule that blocks every URL. -/
theorem width_of_parse_stars :
    let rule :=
      { blank "***" false with
        pattern := "***"
        regex := some ".*.*.*" }
    parse .v16_4 "***" = .ok rule ∧ ¬ rule.header.isException ∧
      rule.header.scope.permitted = [] ∧ MatchesEveryUrl ".*.*.*" ∧
      rule.pattern.toList = List.replicate 3 '*' ∧ IsMatchAlls ".*.*.*" := by
  have hregex : Pattern.toRegex "***" = .ok ".*.*.*" := by decide +kernel
  refine ⟨by decide +kernel, Bool.false_ne_true, rfl, ?_, rfl, 3, rfl⟩
  rw [Pattern.matchesEveryUrl_iff hregex, Pattern.matches_iff_of_toRegex hregex]
  refine ⟨by decide, .inr ⟨[], [], "a://b/c".toList, rfl, trivial, ?_, ?_⟩⟩
  · exact ⟨[], [], rfl, List.not_mem_nil, [], [], rfl, List.not_mem_nil, [], [], rfl,
      List.not_mem_nil, rfl⟩
  · exact fun hended => absurd hended Bool.false_ne_true

end NetworkRule
end FilterCompiler
