import FilterCompiler.Proofs.Rule.Marker
import FilterCompiler.Rule.Canonical

/-!
# Rewriting a line and what stands before its marker

Put in front of a cosmetic line, a text comes to stand in front of each of its canonical
lines (`lines_append_iff`), unless it disturbs the rewriting: a call looks for its
parentheses in the whole line, and so does a style for the sign that introduces its
declarations (`Disturbs`).  That the lines differ whenever a call is disturbed follows
from the number of parentheses that open: quoting keeps it (`count_quoteArgs`).
-/

namespace FilterCompiler
namespace Text

/-! ## Counting a character -/

theorem flatten_consFirst
    (c : Char)
    (pieces : List (List Char)) :
    (consFirst c pieces).flatten = c :: pieces.flatten := by
  cases pieces <;> rfl

theorem count_flatten_splitOn
    {c sep : Char}
    (h : sep ≠ c)
    (s : List Char) :
    (splitOn sep s).flatten.count c = s.count c := by
  induction s with
  | nil => rfl
  | cons d s ih =>
      rw [splitOn]
      split
      · next hd => rw [hd, List.count_cons_of_ne h, List.flatten_cons, List.nil_append, ih]
      · rw [flatten_consFirst, List.count_cons, List.count_cons, ih]

theorem count_flatten_splitOnPair
    {a b c : Char}
    (ha : a ≠ c)
    (hb : b ≠ c)
    (s : List Char) :
    (splitOnPair a b s).flatten.count c = s.count c := by
  fun_induction splitOnPair a b s with
  | case1 => rfl
  | case2 d => simp
  | case3 d e s hde ih =>
      obtain ⟨rfl, rfl⟩ := hde
      rw [List.flatten_cons, List.nil_append, ih, List.count_cons_of_ne ha,
        List.count_cons_of_ne hb]
  | case4 d e s hde ih => rw [flatten_consFirst, List.count_cons, ih, List.count_cons (l := e :: s)]

theorem count_joinWith
    {c : Char}
    {sep : List Char}
    (h : c ∉ sep)
    (pieces : List (List Char)) :
    (joinWith sep pieces).count c = pieces.flatten.count c := by
  induction pieces with
  | nil => rfl
  | cons piece pieces ih =>
      cases pieces with
      | nil => simp [joinWith]
      | cons piece' pieces =>
          rw [joinWith_cons_cons, List.count_append, List.count_append,
            List.count_eq_zero_of_not_mem h, ih, List.flatten_cons (l := piece), List.count_append,
            Nat.add_zero]

theorem count_dropWhile_eq
    {c d : Char}
    (h : d ≠ c)
    (s : List Char) :
    (s.dropWhile (· == d)).count c = s.count c := by
  induction s with
  | nil => rfl
  | cons e s ih =>
      rw [List.dropWhile_cons]
      split
      · next he => rw [ih, eq_of_beq he, List.count_cons_of_ne h]
      · rfl

theorem count_trimChar
    {c d : Char}
    (h : d ≠ c)
    (s : List Char) :
    (trimChar d s).count c = s.count c := by
  rw [trimChar, List.count_reverse, count_dropWhile_eq h, List.count_reverse,
    count_dropWhile_eq h]

end Text

namespace Canonical

/-! ## Parentheses that open -/

theorem escapeQuotes_cons
    (c : Char)
    (s : List Char) :
    escapeQuotes (c :: s) =
      if c = '"' then '\\' :: '"' :: escapeQuotes s else c :: escapeQuotes s := by
  rw [escapeQuotes, Text.replaceAll, Text.replaceFrom]
  simp only [Text.beginsWith, Text.dropLead?, @eq_comm _ '"' c]
  by_cases hc : c = '"'
  · rw [if_pos hc, if_pos hc]
    rfl
  · rw [if_neg hc, if_neg hc]
    rfl

theorem count_escapeQuotes
    (s : List Char) :
    (escapeQuotes s).count '(' = s.count '(' := by
  induction s with
  | nil => rfl
  | cons c s ih =>
      rw [escapeQuotes_cons]
      split
      · next hc => simp [hc, ih]
      · rw [List.count_cons, List.count_cons, ih]

theorem count_unquote
    (arg : List Char) :
    (unquote arg).count '(' = arg.count '(' := by
  unfold unquote
  split
  · exact count_escapeQuotes arg
  · split
    · rw [count_escapeQuotes, Text.count_trimChar (by decide)]
    · split
      · exact Text.count_trimChar (by decide) arg
      · rfl

theorem count_quoteArg
    (arg : List Char) :
    (quoteArg arg).count '(' = arg.count '(' := by
  simp [quoteArg, count_unquote]

/-- **Quoting keeps the number of parentheses that open.** -/
theorem count_quoteArgs
    {dialect : List Char}
    (h : '(' ∉ dialect)
    (args : List (List Char)) :
    (quoteArgs dialect args).flatten.count '(' = args.flatten.count '(' := by
  cases args with
  | nil => rfl
  | cons name args =>
      have hargs : (args.map quoteArg).flatten.count '(' = args.flatten.count '(' := by
        induction args with
        | nil => rfl
        | cons arg args ih =>
            simp only [List.map_cons, List.flatten_cons, List.count_append, ih, count_quoteArg]
      simp only [quoteArgs, List.flatten_cons, List.count_append, hargs, count_quoteArg,
        List.count_eq_zero_of_not_mem h, Nat.zero_add]

theorem count_callItems
    (items : List Char) :
    (callItems items).flatten.count '(' = items.count '(' := by
  unfold callItems
  split
  · exact Text.count_flatten_splitOnPair (by decide) (by decide) items
  · exact Text.count_flatten_splitOn (by decide) items

theorem count_callLine
    (cut : Marker.Cut)
    (items : List Char) :
    (callLine cut (quoteArgs callLead (callItems items))).count '(' =
      (callLine cut []).count '(' + items.count '(' := by
  have hargs : (Text.joinWith [',', ' '] (quoteArgs callLead (callItems items))).count '(' =
      items.count '(' := by
    rw [Text.count_joinWith (by decide), count_quoteArgs (by decide), count_callItems]
  simp only [callLine, Marker.Cut.rebuild, Text.joinWith, List.count_append, hargs]
  simp
  omega

/-! ## Texts between parentheses -/

theorem betweenParentheses_append_of_notMem
    {lead : List Char}
    (h : '(' ∉ lead)
    (s : List Char) :
    betweenParentheses (lead ++ s) = betweenParentheses s := by
  rw [betweenParentheses, betweenParentheses, Text.breakAt?_append_of_notMem h]
  cases Text.breakAt? '(' s <;> rfl

theorem betweenParentheses_of_notMem_close
    {s : List Char}
    (h : ')' ∉ s) :
    betweenParentheses s = [] := by
  unfold betweenParentheses
  split
  · rfl
  · next before rest hbreak =>
      rw [Text.breakAt?_eq_some hbreak, List.mem_append, List.mem_cons, not_or, not_or] at h
      rw [Text.breakAtLast?_of_notMem h.2.2]
      rfl

/-- A text in which no parenthesis closes adds nothing. -/
theorem betweenParentheses_append_of_notMem_close
    {lead : List Char}
    (hopen : '(' ∈ lead)
    {s : List Char}
    (hclose : ')' ∉ s) :
    betweenParentheses (lead ++ s) = betweenParentheses lead := by
  obtain ⟨before, rest, rfl, hbefore⟩ := List.eq_append_cons_of_mem hopen
  rw [List.append_assoc, List.cons_append, betweenParentheses, betweenParentheses,
    Text.breakAt?_append_cons hbefore, Text.breakAt?_append_cons hbefore]
  dsimp only
  rw [Text.breakAtLast?_append_of_notMem hclose]
  cases Text.breakAtLast? ')' rest <;> rfl

theorem exists_eq_of_betweenParentheses_ne_nil
    {s : List Char}
    (h : betweenParentheses s ≠ []) :
    ∃ before after, s = before ++ '(' :: betweenParentheses s ++ ')' :: after ∧ ')' ∉ after := by
  cases hopen : Text.breakAt? '(' s with
  | none => simp [betweenParentheses, hopen] at h
  | some p =>
      cases hclose : Text.breakAtLast? ')' p.2 with
      | none => simp [betweenParentheses, hopen, hclose] at h
      | some q =>
          refine ⟨p.1, q.2, ?_, Text.notMem_of_breakAtLast?_eq_some hclose⟩
          have hitems : betweenParentheses s = q.1 := by
            simp [betweenParentheses, hopen, hclose]
          rw [hitems, List.append_assoc, List.cons_append, ← Text.breakAtLast?_eq_some hclose]
          exact Text.breakAt?_eq_some hopen

theorem betweenParentheses_append_cons
    {lead : List Char}
    (hopen : '(' ∈ lead)
    {after : List Char}
    (hclose : ')' ∉ after)
    (before : List Char) :
    ∃ rest, betweenParentheses (lead ++ (before ++ ')' :: after)) = rest ++ before := by
  obtain ⟨first, rest, rfl, hfirst⟩ := List.eq_append_cons_of_mem hopen
  refine ⟨rest, ?_⟩
  rw [List.append_assoc, List.cons_append, betweenParentheses, Text.breakAt?_append_cons hfirst]
  dsimp only
  rw [← List.append_assoc, Text.breakAtLast?_append_cons hclose]
  rfl

/-- A parenthesis that opens in front of a call is one more than those between the
parentheses of the call. -/
theorem count_betweenParentheses_append
    {lead : List Char}
    (hopen : '(' ∈ lead)
    {s : List Char}
    (hne : betweenParentheses s ≠ []) :
    (betweenParentheses s).count '(' < (betweenParentheses (lead ++ s)).count '(' := by
  obtain ⟨before, after, hs, hafter⟩ := exists_eq_of_betweenParentheses_ne_nil hne
  obtain ⟨rest, hrest⟩ :=
    betweenParentheses_append_cons hopen hafter (before ++ '(' :: betweenParentheses s)
  rw [← hs] at hrest
  rw [hrest, List.count_append, List.count_append, List.count_cons_self]
  omega

/-! ## Calls -/

theorem ofCall_eq_nil
    {line : List Char}
    (h : betweenParentheses line = [])
    (cut : Marker.Cut) :
    ofCall line cut = [] := by
  rw [ofCall, h]

theorem ofCall_eq_singleton
    {line : List Char}
    (h : betweenParentheses line ≠ [])
    (cut : Marker.Cut) :
    ofCall line cut =
      [callLine cut (quoteArgs callLead (callItems (betweenParentheses line)))] := by
  unfold ofCall
  split
  · next hnil => exact absurd hnil h
  · rfl

theorem exists_args_of_mem_ofCall
    {line line' : List Char}
    {cut : Marker.Cut}
    (h : line' ∈ ofCall line cut) :
    ∃ args, line' = callLine cut args := by
  by_cases hitems : betweenParentheses line = []
  · rw [ofCall_eq_nil hitems] at h
    cases h
  · rw [ofCall_eq_singleton hitems] at h
    exact ⟨_, List.mem_singleton.mp h⟩

/-- A text disturbs a call behind it if the parentheses of the call are looked for in it. -/
def DisturbsCall (lead body : List Char) : Prop :=
  ('(' ∈ lead ∧ ')' ∈ body) ∨ betweenParentheses lead ≠ []

theorem betweenParentheses_append
    {lead body : List Char}
    (h : ¬ DisturbsCall lead body) :
    betweenParentheses (lead ++ body) = betweenParentheses body := by
  rw [DisturbsCall, not_or, not_and, Decidable.not_not] at h
  by_cases hopen : '(' ∈ lead
  · rw [betweenParentheses_append_of_notMem_close hopen (h.1 hopen), h.2,
      betweenParentheses_of_notMem_close (h.1 hopen)]
  · exact betweenParentheses_append_of_notMem hopen body

theorem betweenParentheses_append_ne_nil
    {lead body : List Char}
    (hbody : body.head? ≠ some ')')
    (h : DisturbsCall lead body) :
    betweenParentheses (lead ++ body) ≠ [] := by
  by_cases hclose : ')' ∈ body
  · have hopen : '(' ∈ lead := by
      rcases h with h | h
      · exact h.1
      · obtain ⟨before, after, hlead, -⟩ := exists_eq_of_betweenParentheses_ne_nil h
        rw [hlead]
        simp
    obtain ⟨before, after, rfl, hafter⟩ := Text.exists_eq_append_cons_last hclose
    obtain ⟨rest, hrest⟩ := betweenParentheses_append_cons hopen hafter before
    rw [hrest]
    cases before with
    | nil => simp at hbody
    | cons c before => simp
  · have hlead : betweenParentheses lead ≠ [] := h.resolve_left fun h => hclose h.2
    obtain ⟨before, after, hs, -⟩ := exists_eq_of_betweenParentheses_ne_nil hlead
    have hopen : '(' ∈ lead := by
      rw [hs]
      simp
    rwa [betweenParentheses_append_of_notMem_close hopen hclose]

theorem callLine_withDomains
    {cut : Marker.Cut}
    (hcut : cut.domains = [])
    (lead : List Char)
    (args : List (List Char)) :
    callLine { cut with domains := lead } args = lead ++ callLine cut args := by
  simp [callLine, Marker.Cut.rebuild, hcut]

theorem ofCall_append_iff
    {cut : Marker.Cut}
    (hcut : cut.domains = [])
    {body : List Char}
    (hbody : body.head? ≠ some ')')
    (lead : List Char) :
    ofCall (lead ++ body) { cut with domains := lead } = (ofCall body cut).map (lead ++ ·) ↔
      ¬ DisturbsCall lead body := by
  constructor
  · intro h hdisturbs
    have hline := betweenParentheses_append_ne_nil hbody hdisturbs
    rw [ofCall_eq_singleton hline, callLine_withDomains hcut] at h
    by_cases hitems : betweenParentheses body = []
    · rw [ofCall_eq_nil hitems] at h
      cases h
    · rw [ofCall_eq_singleton hitems, List.map_singleton, List.singleton_inj,
        List.append_cancel_left_eq] at h
      have hopen : '(' ∈ lead := by
        rcases hdisturbs with hdisturbs | hdisturbs
        · exact hdisturbs.1
        · obtain ⟨before, after, hlead, -⟩ := exists_eq_of_betweenParentheses_ne_nil hdisturbs
          rw [hlead]
          simp
      -- the lines differ in the number of parentheses that open
      have hcount := congrArg (List.count '(') h
      rw [count_callLine, count_callLine, Nat.add_left_cancel_iff] at hcount
      exact absurd hcount (Nat.ne_of_gt (count_betweenParentheses_append hopen hitems))
  · intro h
    have hitems := betweenParentheses_append h
    by_cases hnil : betweenParentheses body = []
    · rw [ofCall_eq_nil hnil, ofCall_eq_nil (hitems.trans hnil), List.map_nil]
    · rw [ofCall_eq_singleton hnil, ofCall_eq_singleton (hitems ▸ hnil), hitems,
        callLine_withDomains hcut, List.map_singleton]

/-! ## Styles -/

theorem ofStyle_withDomains
    {cut : Marker.Cut}
    (hcut : cut.domains = [])
    (lead : List Char) :
    ofStyle { cut with domains := lead } = lead ++ ofStyle cut := by
  simp only [ofStyle, Marker.Cut.rebuild, hcut, List.nil_append, List.append_assoc]
  rw [List.dropLast_append_of_ne_nil
    (List.append_ne_nil_of_left_ne_nil (Marker.text_ne_nil _) _), List.append_assoc]

/-- A style has a marker of its own. -/
theorem ofStyle_ne
    {cut : Marker.Cut}
    (hcut : cut.domains = [])
    (hmarker : cut.marker = .hide ∨ cut.marker = .hideException) :
    ofStyle cut ≠ cut.rebuild cut.marker cut.content := by
  obtain ⟨domains, marker, content⟩ := cut
  obtain rfl : domains = [] := hcut
  intro h
  rcases hmarker with rfl | rfl
  · have hsign := congrArg (·[1]?) h
    cases hstyle : Text.replaceAll styleSign [' ', '\x7b', ' '] content <;>
      simp [ofStyle, Marker.Cut.rebuild, Marker.isException, Marker.text, hstyle] at hsign
  · have hsign := congrArg (·[2]?) h
    cases hstyle : Text.replaceAll styleSign [' ', '\x7b', ' '] content <;>
      simp [ofStyle, Marker.Cut.rebuild, Marker.isException, Marker.text, hstyle] at hsign

/-- The sign of a style does not hold a sign of a marker. -/
theorem occurs_styleSign_rebuild
    {marker : Marker}
    (hmarker : marker = .hide ∨ marker = .hideException)
    (lead content : List Char) :
    Text.occurs styleSign (lead ++ (marker.text.toList ++ content)) ↔
      Text.occurs styleSign lead ∨ Text.occurs styleSign content := by
  have hsign : '#' ∉ styleSign := by decide
  rcases hmarker with rfl | rfl
  · change Text.occurs styleSign (lead ++ '#' :: ([] ++ '#' :: content)) ↔ _
    rw [Text.occurs_append_cons hsign, Text.occurs_append_cons hsign]
    simp [show Text.occurs styleSign [] = false by decide]
  · change Text.occurs styleSign (lead ++ '#' :: (['@'] ++ '#' :: content)) ↔ _
    rw [Text.occurs_append_cons hsign, Text.occurs_append_cons hsign]
    simp [show Text.occurs styleSign ['@'] = false by decide]

/-! ## Lines -/

/-- A text in front of a cosmetic line holds the signs that the rewriting looks for. -/
def Disturbs (lead : List Char) (cut : Marker.Cut) : Prop :=
  (cut.marker = .hide ∨ cut.marker = .hideException) ∧
    if Text.beginsWith callSign cut.content then
      DisturbsCall lead (cut.rebuild cut.marker cut.content)
    else Text.occurs styleSign lead ∧ ¬ Text.occurs styleSign cut.content

theorem ofCut_of_hiding
    {cut : Marker.Cut}
    (h : cut.marker = .hide ∨ cut.marker = .hideException)
    (line : List Char) :
    ofCut line cut =
      if Text.beginsWith callSign cut.content then ofCall line cut
      else if Text.occurs styleSign line then [ofStyle cut]
      else [line] := by
  rcases h with h | h <;> rw [ofCut, h]

/-- Other lines are rewritten by what stands after their marker. -/
theorem ofCut_append_of_not_hiding
    {cut : Marker.Cut}
    (h : ¬ (cut.marker = .hide ∨ cut.marker = .hideException))
    (hcut : cut.domains = [])
    (lead line : List Char) :
    ofCut (lead ++ line) { cut with domains := lead } = (ofCut line cut).map (lead ++ ·) := by
  have hsnippet : ofSnippet { cut with domains := lead } = (ofSnippet cut).map (lead ++ ·) := by
    rw [ofSnippet, ofSnippet, List.map_map]
    exact List.map_congr_left fun statement _ => callLine_withDomains hcut lead _
  simp only [ofCut]
  split
  · next hmarker => exact absurd (.inl hmarker) h
  · next hmarker => exact absurd (.inr hmarker) h
  · split
    · rfl
    · exact hsnippet
  · split
    · rfl
    · exact hsnippet
  · rfl

theorem ofCut_append_iff
    {cut : Marker.Cut}
    (hcut : cut.domains = [])
    (lead : List Char) :
    ofCut (lead ++ cut.rebuild cut.marker cut.content) { cut with domains := lead } =
        (ofCut (cut.rebuild cut.marker cut.content) cut).map (lead ++ ·) ↔
      ¬ Disturbs lead cut := by
  by_cases hmarker : cut.marker = .hide ∨ cut.marker = .hideException
  · have hbody : (cut.rebuild cut.marker cut.content).head? ≠ some ')' := by
      rcases hmarker with h | h <;> simp [Marker.Cut.rebuild, hcut, h, Marker.text]
    rw [ofCut_of_hiding hmarker, @ofCut_of_hiding { cut with domains := lead } hmarker]
    by_cases hcall : Text.beginsWith callSign cut.content
    · simp only [Disturbs, hmarker, true_and, hcall, if_true]
      exact ofCall_append_iff hcut hbody lead
    · have hrebuild :
          cut.rebuild cut.marker cut.content = cut.marker.text.toList ++ cut.content := by
        simp [Marker.Cut.rebuild, hcut]
      have hline := occurs_styleSign_rebuild hmarker lead cut.content
      have hrest : Text.occurs styleSign (cut.marker.text.toList ++ cut.content) ↔
          Text.occurs styleSign cut.content := by
        have hrest := occurs_styleSign_rebuild hmarker [] cut.content
        simpa [show Text.occurs styleSign [] = false by decide] using hrest
      simp only [Disturbs, hmarker, true_and, hcall, Bool.false_eq_true, if_false, hline, hrest,
        hrebuild]
      by_cases hcontent : Text.occurs styleSign cut.content
      · simp [hcontent, ofStyle_withDomains hcut lead]
      · by_cases hlead : Text.occurs styleSign lead
        · simp [hcontent, hlead, ofStyle_withDomains hcut lead, ← hrebuild, ofStyle_ne hcut hmarker]
        · simp [hcontent, hlead]
  · simp only [ofCut_append_of_not_hiding hmarker hcut, Disturbs, hmarker, false_and,
      not_false_eq_true]

/-- **A text in front of a cosmetic line comes to stand in front of its canonical lines,
unless it disturbs the rewriting.** -/
theorem lines_append_iff
    {lead body : String}
    {cut cut' : Marker.Cut}
    (hbody : Marker.find? body.toList = some cut)
    (hcut : cut.domains = [])
    (hline : Marker.find? (lead ++ body).toList = some cut')
    (hcut' : cut'.domains = lead.toList)
    (hmarker : cut'.marker = cut.marker) :
    ∃ canonical canonical',
      lines body = .ok canonical ∧ lines (lead ++ body) = .ok canonical' ∧
        (canonical' = canonical.map (lead ++ ·) ↔ ¬ Disturbs lead.toList cut) := by
  have hrebuild := (Marker.find?_eq_some_iff.mp hbody).2.1
  have hrebuild' := (Marker.find?_eq_some_iff.mp hline).2.1
  have hcontent : cut'.content = cut.content := by
    rw [String.toList_append, hrebuild] at hrebuild'
    simpa [Marker.Cut.rebuild, hcut, hcut', hmarker] using hrebuild'.symm
  have hwith : cut' = { cut with domains := lead.toList } := by
    obtain ⟨domains, marker, content⟩ := cut'
    simp_all
  have hlines : lines body = .ok ((ofCut body.toList cut).map String.ofList) := by
    rw [lines, ofChars, hbody]
    rfl
  have hlines' : lines (lead ++ body) =
      .ok ((ofCut (lead.toList ++ body.toList) cut').map String.ofList) := by
    rw [lines, ofChars, hline, String.toList_append]
    rfl
  refine ⟨_, _, hlines, hlines', ?_⟩
  have hmap : ((ofCut body.toList cut).map String.ofList).map (lead ++ ·) =
      ((ofCut body.toList cut).map (lead.toList ++ ·)).map String.ofList := by
    simp [Function.comp_def]
  rw [hmap, List.map_inj_right fun _ _ => String.ofList_inj.mp, hwith, hrebuild]
  exact ofCut_append_iff hcut lead.toList

/-- A line behind options in brackets. -/
theorem lines_append_iff_options :
    Marker.find? "##+js(nobab)".toList = some ⟨[], .hide, "+js(nobab)".toList⟩ ∧
      ∃ canonical canonical',
        lines "##+js(nobab)" = .ok canonical ∧
          lines ("[$path=/a]b.example" ++ "##+js(nobab)") = .ok canonical' ∧
          (canonical' = canonical.map ("[$path=/a]b.example" ++ ·) ↔
            ¬ Disturbs "[$path=/a]b.example".toList ⟨[], .hide, "+js(nobab)".toList⟩) :=
  ⟨by decide +kernel,
    @lines_append_iff _ _ _ ⟨"[$path=/a]b.example".toList, .hide, "+js(nobab)".toList⟩
      (by decide +kernel) rfl (by decide +kernel) rfl rfl⟩

/-- A parenthesis in a path is taken for the one of the call behind it. -/
theorem lines_append_parenthesis :
    Marker.find? "##+js(nobab)".toList = some ⟨[], .hide, "+js(nobab)".toList⟩ ∧
      Marker.find? ("[$path=/a(b)]" ++ "##+js(nobab)").toList =
        some ⟨"[$path=/a(b)]".toList, .hide, "+js(nobab)".toList⟩ ∧
      lines "##+js(nobab)" = .ok ["#%#//scriptlet(\"ubo-nobab\")"] ∧
      lines ("[$path=/a(b)]" ++ "##+js(nobab)") =
        .ok ["[$path=/a(b)]#%#//scriptlet(\"ubo-b)]##+js(nobab\")"] ∧
      ["[$path=/a(b)]#%#//scriptlet(\"ubo-b)]##+js(nobab\")"] ≠
        ["#%#//scriptlet(\"ubo-nobab\")"].map ("[$path=/a(b)]" ++ ·) :=
  ⟨by decide +kernel, by decide +kernel, rfl, rfl, by decide +kernel⟩

end Canonical
end FilterCompiler
