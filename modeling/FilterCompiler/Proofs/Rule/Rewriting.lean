import FilterCompiler.Proofs.Rule.Canonical

/-!
# Rewritten lines and their markers

A cosmetic line is rewritten as a call, as the statements of a snippet or as a style.
The lines that take its place have another marker and another content, but the marker
stands where the old one stood, behind the same domains, and makes an exception of them
if and only if the old one did (`lines_rewritten`).  Only a call with nothing between its
parentheses is dropped.  Calls are canonical, so what a call or a snippet becomes is not
rewritten again.
-/

namespace FilterCompiler
namespace Canonical

/-- How a cosmetic line is rewritten. -/
inductive Rewriting where
  | call
  | snippet
  | style
deriving DecidableEq, Repr

namespace Rewriting

/-- The line of the cut is rewritten in this way. -/
def Applies (cut : Marker.Cut) : Rewriting → Prop
  | call =>
      (cut.marker = .hide ∨ cut.marker = .hideException) ∧ Text.beginsWith callSign cut.content
  | snippet =>
      (cut.marker = .style ∨ cut.marker = .styleException) ∧
        ¬ holdsBlock (cut.marker.text.toList ++ cut.content)
  | style =>
      (cut.marker = .hide ∨ cut.marker = .hideException) ∧
        ¬ Text.beginsWith callSign cut.content ∧ Text.occurs styleSign cut.content

/-- The lines that take the place of a line that is rewritten in this way. -/
def rewrite (line : List Char) (cut : Marker.Cut) : Rewriting → List (List Char)
  | call => ofCall line cut
  | snippet => ofSnippet cut
  | style => [ofStyle cut]

/-- The marker of rewritten lines. -/
def marker (isException : Bool) : Rewriting → Marker
  | call | snippet => if isException then .scriptException else .script
  | style => if isException then .styleException else .style

/-- The marker of rewritten lines keeps the polarity. -/
@[simp] theorem isException_marker
    (isException : Bool)
    (rewriting : Rewriting) :
    (rewriting.marker isException).isException = isException := by
  cases rewriting <;> cases isException <;> rfl

theorem head?_marker
    (isException : Bool)
    (rewriting : Rewriting) :
    (rewriting.marker isException).text.toList.head? = some '#' := by
  cases rewriting <;> cases isException <;> rfl

theorem byteLength_marker
    (isException : Bool)
    (rewriting : Rewriting) :
    2 < Text.byteLength (rewriting.marker isException).text.toList := by
  cases rewriting <;> cases isException <;> decide

/-- The lines that are rewritten have a marker with the sign `#` in front. -/
theorem Applies.head?
    {cut : Marker.Cut}
    {rewriting : Rewriting}
    (h : rewriting.Applies cut) :
    cut.marker.text.toList.head? = some '#' := by
  cases rewriting <;> rcases h.1 with hmarker | hmarker <;> rw [hmarker] <;> rfl

end Rewriting

variable {line : List Char} {cut : Marker.Cut}

theorem scriptMarker_eq
    (marker : Marker) :
    scriptMarker marker = Rewriting.call.marker marker.isException := by
  rfl

/-- A script takes the place of a call or of a statement. -/
theorem find?_callLine
    (hline : Marker.find? line = some cut)
    (hhead : cut.marker.text.toList.head? = some '#')
    (args : List (List Char)) :
    ∃ content, Marker.find? (callLine cut args) =
      some { cut with marker := Rewriting.call.marker cut.marker.isException, content } := by
  rw [callLine, scriptMarker_eq]
  exact ⟨_, Marker.find?_rebuild hline hhead (Rewriting.head?_marker _ .call)
    (Rewriting.byteLength_marker _ .call) _⟩

/-- A style block takes the place of a style. -/
theorem find?_ofStyle
    (hline : Marker.find? line = some cut)
    (hhead : cut.marker.text.toList.head? = some '#')
    (hcontent : cut.content ≠ []) :
    ∃ content, Marker.find? (ofStyle cut) =
      some { cut with marker := Rewriting.style.marker cut.marker.isException, content } := by
  have hreplaced : Text.replaceAll styleSign [' ', '\x7b', ' '] cut.content ≠ [] := by
    obtain ⟨c, content, hcons⟩ := List.exists_cons_of_ne_nil hcontent
    rw [hcons, Text.replaceAll, Text.replaceFrom]
    split <;> simp
  -- the sign that is dropped at the end is one of the content
  rw [ofStyle, Marker.Cut.rebuild, List.dropLast_append_of_ne_nil hreplaced, List.append_assoc]
  exact ⟨_, Marker.find?_rebuild hline hhead (Rewriting.head?_marker _ .style)
    (Rewriting.byteLength_marker _ .style) _⟩

/-- A line is rewritten in the way that applies to it. -/
theorem ofCut_of_applies
    {rewriting : Rewriting}
    (hline : Marker.find? line = some cut)
    (happlies : rewriting.Applies cut) :
    ofCut line cut = rewriting.rewrite line cut := by
  cases rewriting with
  | call => rw [ofCut_of_hiding happlies.1, if_pos happlies.2, Rewriting.rewrite]
  | snippet =>
      rcases happlies.1 with hmarker | hmarker
      all_goals
        have hblock := happlies.2
        rw [hmarker] at hblock
        rw [ofCut, hmarker]
        exact if_neg hblock
  | style =>
      have hstyle : Text.occurs styleSign line := by
        rw [(Marker.find?_eq_some_iff.mp hline).2.1, Text.occurs_iff]
        exact (Text.occurs_iff.mp happlies.2.2).trans (List.suffix_append _ _).isInfix
      rw [ofCut_of_hiding happlies.1, if_neg happlies.2.1, if_pos hstyle, Rewriting.rewrite]

/-- **Only a call with nothing between its parentheses is dropped.** -/
theorem rewrite_eq_nil_iff
    {rewriting : Rewriting} :
    rewriting.rewrite line cut = [] ↔ rewriting = .call ∧ betweenParentheses line = [] := by
  cases rewriting with
  | call =>
      by_cases hitems : betweenParentheses line = []
      · simp [Rewriting.rewrite, ofCall_eq_nil hitems, hitems]
      · simp [Rewriting.rewrite, ofCall_eq_singleton hitems, hitems]
  | snippet =>
      have hstatements := Text.splitOnPair_ne_nil ';' ' ' cut.content
      simp [Rewriting.rewrite, ofSnippet, hstatements]
  | style => simp [Rewriting.rewrite]

/-- Only a snippet becomes more than one line. -/
theorem length_rewrite_le
    {rewriting : Rewriting}
    (h : rewriting ≠ .snippet) :
    (rewriting.rewrite line cut).length ≤ 1 := by
  cases rewriting with
  | call =>
      rw [Rewriting.rewrite, ofCall]
      split <;> simp
  | snippet => exact absurd rfl h
  | style => exact Nat.le_refl 1

/-- Every line that takes the place of a rewritten one is cut behind the same domains. -/
theorem find?_of_mem_rewrite
    {rewriting : Rewriting}
    (hline : Marker.find? line = some cut)
    (happlies : rewriting.Applies cut)
    {line' : List Char}
    (hmem : line' ∈ rewriting.rewrite line cut) :
    ∃ content, Marker.find? line' =
      some { cut with marker := rewriting.marker cut.marker.isException, content } := by
  have hhead := happlies.head?
  cases rewriting with
  | call =>
      obtain ⟨args, rfl⟩ := exists_args_of_mem_ofCall hmem
      exact find?_callLine hline hhead args
  | snippet =>
      obtain ⟨statement, -, rfl⟩ := List.mem_map.mp hmem
      exact find?_callLine hline hhead _
  | style =>
      have hcontent : cut.content ≠ [] := by
        intro hnil
        have hsign := happlies.2.2
        rw [hnil] at hsign
        exact absurd hsign (by decide)
      cases List.mem_singleton.mp hmem
      exact find?_ofStyle hline hhead hcontent

/-- Scripts are canonical. -/
theorem lines_of_script
    {line : String}
    (hline : Marker.find? line.toList = some cut)
    (hmarker : cut.marker = .script ∨ cut.marker = .scriptException) :
    lines line = .ok [line] := by
  have hcut : ofCut line.toList cut = [line.toList] := by
    rcases hmarker with hmarker | hmarker <;> rw [ofCut, hmarker]
  rw [lines, ofChars, hline]
  dsimp only
  rw [hcut]
  simp [Except.map]

/-- **Rewriting a cosmetic line keeps its domains and its polarity.**  Every line that
takes its place begins with the same domains and is cut behind them, at the marker of its
kind with the same polarity; the lines of a call and of a snippet stay as they are from
then on.  A snippet and a style give lines, a call gives one unless there is nothing
between its parentheses, and only a snippet gives more than one. -/
theorem lines_rewritten
    {line : String}
    (hline : Marker.find? line.toList = some cut)
    {rewriting : Rewriting}
    (happlies : rewriting.Applies cut) :
    cut.domains <+: line.toList ∧
      (rewriting.marker cut.marker.isException).isException = cut.marker.isException ∧
      ∃ canonical, lines line = .ok canonical ∧ canonical ≠ [line] ∧
        (canonical = [] ↔ rewriting = .call ∧ betweenParentheses line.toList = []) ∧
        (rewriting ≠ .snippet → canonical.length ≤ 1) ∧
        ∀ line' ∈ canonical,
          cut.domains <+: line'.toList ∧
          (∃ content, Marker.find? line'.toList =
            some { cut with marker := rewriting.marker cut.marker.isException, content }) ∧
          (rewriting ≠ .style → lines line' = .ok [line']) := by
  have hcut (line' : String)
      (hmem : line' ∈ (rewriting.rewrite line.toList cut).map String.ofList) :
      ∃ content, Marker.find? line'.toList =
        some { cut with marker := rewriting.marker cut.marker.isException, content } := by
    obtain ⟨canonical, hcanonical, rfl⟩ := List.mem_map.mp hmem
    rw [String.toList_ofList]
    exact find?_of_mem_rewrite hline happlies hcanonical
  have hlines : lines line = .ok ((rewriting.rewrite line.toList cut).map String.ofList) := by
    rw [lines, ofChars, hline, ← ofCut_of_applies hline happlies]
    rfl
  refine ⟨Marker.isPrefix_of_find? hline, Rewriting.isException_marker _ _, _, hlines,
    ?_, ?_, ?_, ?_⟩
  · intro hsame
    -- the marker of the line is none of those that rewritten lines have
    obtain ⟨content, hfind⟩ := hcut line (hsame ▸ List.mem_singleton_self line)
    rw [hline, Option.some_inj] at hfind
    have hmarker : cut.marker = rewriting.marker cut.marker.isException :=
      congrArg Marker.Cut.marker hfind
    cases rewriting <;> rcases happlies.1 with hold | hold <;> rw [hold] at hmarker <;>
      exact absurd hmarker (by decide)
  · rw [List.map_eq_nil_iff, rewrite_eq_nil_iff]
  · intro hkind
    rw [List.length_map]
    exact length_rewrite_le hkind
  · intro line' hmem
    obtain ⟨content, hfind⟩ := hcut line' hmem
    have hlead := Marker.isPrefix_of_find? hfind
    refine ⟨hlead, ⟨content, hfind⟩, fun hkind => ?_⟩
    refine lines_of_script hfind ?_
    cases rewriting with
    | call | snippet =>
        cases cut.marker.isException
        · exact .inl rfl
        · exact .inr rfl
    | style => exact absurd rfl hkind

/-- An exception for a snippet of two statements behind a list of domains. -/
theorem lines_rewritten_statements :
    let line := "a.example,~b.a.example#@$#log 'x y'; hide #@#"
    let domains := "a.example,~b.a.example".toList
    let cut : Marker.Cut := ⟨domains, .styleException, "log 'x y'; hide #@#".toList⟩
    let canonical :=
      ["a.example,~b.a.example#@%#//scriptlet(\"abp-log\", \"x y\")",
       "a.example,~b.a.example#@%#//scriptlet(\"abp-hide\", \"#@#\")"]
    Marker.find? line.toList = some cut ∧ Rewriting.snippet.Applies cut ∧
      domains <+: line.toList ∧ Marker.scriptException.isException = true ∧
      lines line = .ok canonical ∧ canonical ≠ [line] ∧
      ∀ line' ∈ canonical,
        domains <+: line'.toList ∧
        (∃ content, Marker.find? line'.toList = some ⟨domains, .scriptException, content⟩) ∧
        lines line' = .ok [line'] := by
  intro line domains cut canonical
  have hline : Marker.find? line.toList = some cut := by decide +kernel
  have happlies : Rewriting.snippet.Applies cut := ⟨.inr rfl, by decide +kernel⟩
  have hread : (lines line).toOption = some canonical := by decide +kernel
  obtain ⟨hlead, hpolarity, rewritten, hcanonical, hne, -, -, hall⟩ :=
    lines_rewritten hline happlies
  rw [hcanonical] at hread
  cases hread
  refine ⟨hline, happlies, hlead, hpolarity, hcanonical, hne, fun line' hmem => ?_⟩
  obtain ⟨hbegins, hmarker, hstays⟩ := hall line' hmem
  exact ⟨hbegins, hmarker, hstays (by decide)⟩

end Canonical
end FilterCompiler
