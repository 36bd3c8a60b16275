import FilterCompiler.Proofs.Pattern.Host
import FilterCompiler.Proofs.Rule.Canonical
import FilterCompiler.Proofs.Rule.Outcomes
import FilterCompiler.Proofs.Rule.Reading
import Mathlib.Data.List.Induction

/-!
# Arguments of calls

The canonical line of a call holds the arguments in double quotes, and reading that line
gives back the arguments (`lines_call`).  What stands in double quotes is read as it is if
it holds no double quote, no two backslashes in a row and no backslash at its end
(`IsVerbatim`), and one double quote alone is written with a backslash.  Whether the line
is read as a rule is then up to the domains in front of it: each of them needs two bytes
and an encoding.
-/

namespace FilterCompiler

/-! ## Reading what stands in quotes -/

namespace Scriptlet

/-- The text stands for itself between double quotes. -/
structure IsVerbatim (s : List Char) : Prop where
  noQuote : '"' ∉ s
  noPair : ¬ ['\\', '\\'] <:+: s
  noEnd : s.getLast? ≠ some '\\'

namespace IsVerbatim

theorem tail
    {c : Char}
    {s : List Char}
    (h : IsVerbatim (c :: s)) :
    IsVerbatim s where
  noQuote := List.not_mem_of_not_mem_cons h.noQuote
  noPair := fun hpair => h.noPair (List.infix_cons hpair)
  noEnd := fun hend => h.noEnd (by rw [List.getLast?_cons, hend]; rfl)

theorem cons
    {c : Char}
    {s : List Char}
    (hquote : c ≠ '"')
    (hbackslash : c ≠ '\\')
    (h : IsVerbatim s) :
    IsVerbatim (c :: s) where
  noQuote := by
    rw [List.mem_cons, not_or]
    exact ⟨Ne.symm hquote, h.noQuote⟩
  noPair := by
    rw [List.infix_cons_iff, not_or]
    exact ⟨fun hpair => hbackslash (List.cons_prefix_cons.mp hpair).1.symm, h.noPair⟩
  noEnd := by
    cases hs : s.getLast? with
    | none => simp [List.getLast?_cons, hs, hbackslash]
    | some d => simpa [List.getLast?_cons, hs] using h.noEnd

end IsVerbatim

theorem readInside_quote
    (quote : Char)
    (read s : List Char) :
    readInside quote read (quote :: s) = (readOutside s).map (read.reverse :: ·) := by
  rw [readInside.eq_def]
  simp only [if_true]
  cases readOutside s <;> rfl

theorem readInside_plain
    {quote c : Char}
    (hquote : c ≠ quote)
    (hbackslash : c ≠ '\\')
    (read s : List Char) :
    readInside quote read (c :: s) = readInside quote (c :: read) s := by
  rw [readInside.eq_def]
  simp only [if_neg hquote, if_neg hbackslash]

theorem readInside_escaped
    {quote d : Char}
    (hquote : quote ≠ '\\')
    (hd : d = quote ∨ d = '\\')
    (read s : List Char) :
    readInside quote read ('\\' :: d :: s) = readInside quote (d :: read) s := by
  rw [readInside.eq_def]
  simp only [if_neg (Ne.symm hquote), if_true, if_pos hd]

theorem readInside_backslash
    {quote d : Char}
    (hquote : quote ≠ '\\')
    (hd : ¬ (d = quote ∨ d = '\\'))
    (read s : List Char) :
    readInside quote read ('\\' :: d :: s) = readInside quote (d :: '\\' :: read) s := by
  rw [readInside.eq_def]
  simp only [if_neg (Ne.symm hquote), if_true, if_neg hd]

/-- The first text in double quotes is read as the second one. -/
def IsReadAs (written item : List Char) : Prop :=
  ∀ read rest, readInside '"' read (written ++ '"' :: rest) =
    (readOutside rest).map fun items => (read.reverse ++ item) :: items

theorem isReadAs_nil :
    IsReadAs [] [] := by
  intro read rest
  rw [List.nil_append, readInside_quote, List.append_nil]

theorem IsReadAs.cons
    {c : Char}
    (hquote : c ≠ '"')
    (hbackslash : c ≠ '\\')
    {written item : List Char}
    (h : IsReadAs written item) :
    IsReadAs (c :: written) (c :: item) := by
  intro read rest
  rw [List.cons_append, readInside_plain hquote hbackslash, h]
  simp

/-- **A verbatim text is read as it is.** -/
theorem IsVerbatim.isReadAs
    {s : List Char}
    (h : IsVerbatim s) :
    IsReadAs s s := by
  -- a backslash is read together with the character behind it
  induction s using List.twoStepInduction with
  | nil => exact isReadAs_nil
  | singleton c =>
      have hquote : c ≠ '"' := Ne.symm (List.ne_of_not_mem_cons h.noQuote)
      have hbackslash : c ≠ '\\' := fun hc => h.noEnd (hc ▸ rfl)
      exact isReadAs_nil.cons hquote hbackslash
  | cons_cons c d s ih ih' =>
      have hquote : c ≠ '"' := Ne.symm (List.ne_of_not_mem_cons h.noQuote)
      by_cases hc : c = '\\'
      · subst hc
        have hd : ¬ (d = '"' ∨ d = '\\') := by
          rintro (rfl | rfl)
          · exact h.noQuote (by simp)
          · exact h.noPair ⟨[], s, rfl⟩
        intro read rest
        rw [List.cons_append, List.cons_append, readInside_backslash (by decide) hd,
          ih h.tail.tail]
        simp
      · exact (ih' d h.tail).cons hquote hc

theorem isReadAs_escapedQuote :
    IsReadAs ['\\', '"'] ['"'] := by
  intro read rest
  rw [List.cons_append, List.singleton_append, readInside_escaped (by decide) (.inl rfl),
    readInside_quote, List.reverse_cons]

/-! ## Reading a call -/

theorem readOutside_quote
    (s : List Char) :
    readOutside ('"' :: s) = readInside '"' [] s := by
  rw [readOutside.eq_def]
  rfl

theorem readOutside_separator
    (s : List Char) :
    readOutside (',' :: ' ' :: s) = readOutside s := by
  rw [readOutside.eq_def]
  simp only [true_or, if_true]
  rw [readOutside.eq_def]
  simp

/-- The text is read as one item in front of whatever follows it. -/
def IsItem (text item : List Char) : Prop :=
  ∀ rest, readOutside (text ++ rest) = (readOutside rest).map (item :: ·)

theorem IsReadAs.isItem
    {s item : List Char}
    (h : IsReadAs s item) :
    IsItem ('"' :: s ++ ['"']) item := by
  intro rest
  rw [List.append_assoc, List.cons_append, readOutside_quote, List.singleton_append, h,
    List.reverse_nil, List.nil_append]

/-- **Items are read one by one.** -/
theorem readOutside_joinWith
    {texts items : List (List Char)}
    (h : List.Forall₂ IsItem texts items) :
    readOutside (Text.joinWith [',', ' '] texts) = .ok items := by
  induction h with
  | nil => rfl
  | @cons text item texts items hitem hitems ih =>
      cases hitems with
      | nil =>
          have hread := hitem []
          rw [List.append_nil] at hread
          exact hread
      | @cons text' item' texts items hitem' hitems =>
          rw [Text.joinWith_cons_cons, List.append_assoc, hitem, List.cons_append,
            List.singleton_append, readOutside_separator, ih]
          rfl

theorem parse_of_readOutside
    {name : List Char}
    (hname : name ≠ [])
    {items : List Char}
    {args : List (List Char)}
    (h : readOutside items = .ok (name :: args)) :
    parse (String.ofList (lead ++ items ++ [')'])) =
      .ok { name := String.ofList name, args := args.map String.ofList } := by
  have hlead : Text.dropLead? lead (lead ++ (items ++ [')'])) = some (items ++ [')']) :=
    Text.dropLead?_eq_some_iff.mpr rfl
  have hbody : body (items ++ [')']) = items := by
    simp [body, Text.isAscii]
  obtain ⟨c, rest, hcons⟩ :=
    List.exists_cons_of_ne_nil (List.append_ne_nil_of_right_ne_nil items (List.cons_ne_nil ')' []))
  obtain ⟨d, name, rfl⟩ := List.exists_cons_of_ne_nil hname
  rw [parse, String.toList_ofList, List.append_assoc, hlead, hcons]
  dsimp only
  rw [← hcons, hbody, h]

end Scriptlet

/-! ## Writing a call -/

namespace Canonical

open Scriptlet

/-- The text stands between two equal quotes. -/
def IsWrapped (s : List Char) : Prop :=
  ∃ quote inner, (quote = '\'' ∨ quote = '"') ∧ s = quote :: inner ++ [quote]

theorem isQuotedBy_iff
    {quote : Char}
    {s : List Char}
    (hquote : Text.byteLength [quote] ≤ 1)
    (hlength : ¬ Text.byteLength s ≤ 1) :
    isQuotedBy quote s ↔ ∃ inner, s = quote :: inner ++ [quote] := by
  rw [isQuotedBy, Text.endsWithChar, Bool.and_eq_true, beq_iff_eq, beq_iff_eq]
  constructor
  · rintro ⟨hhead, hlast⟩
    obtain ⟨rest, rfl⟩ := List.head?_eq_some_iff.mp hhead
    cases rest using List.reverseRecOn with
    | nil => exact absurd hquote hlength
    | append_singleton inner c =>
        rw [← List.cons_append, List.getLast?_concat, Option.some_inj] at hlast
        exact ⟨inner, by rw [hlast]; rfl⟩
  · rintro ⟨inner, rfl⟩
    exact ⟨rfl, List.getLast?_concat⟩

/-- A text is taken for one in quotes if it is. -/
theorem isWrapped_iff
    {s : List Char} :
    IsWrapped s ↔ ¬ Text.byteLength s ≤ 1 ∧ (isQuotedBy '\'' s ∨ isQuotedBy '"' s) := by
  constructor
  · rintro ⟨quote, inner, hquote, rfl⟩
    have hlength : ¬ Text.byteLength (quote :: inner ++ [quote]) ≤ 1 := by
      have hsize := quote.utf8Size_pos
      rw [Text.byteLength_append, Text.byteLength, Text.byteLength]
      omega
    refine ⟨hlength, ?_⟩
    rcases hquote with rfl | rfl
    · exact .inl ((isQuotedBy_iff (by decide) hlength).mpr ⟨inner, rfl⟩)
    · exact .inr ((isQuotedBy_iff (by decide) hlength).mpr ⟨inner, rfl⟩)
  · rintro ⟨hlength, hquoted | hquoted⟩
    · obtain ⟨inner, hs⟩ := (isQuotedBy_iff (by decide) hlength).mp hquoted
      exact ⟨'\'', inner, .inl rfl, hs⟩
    · obtain ⟨inner, hs⟩ := (isQuotedBy_iff (by decide) hlength).mp hquoted
      exact ⟨'"', inner, .inr rfl, hs⟩

instance (s : List Char) : Decidable (IsWrapped s) := decidable_of_iff _ isWrapped_iff.symm

theorem escapeQuotes_of_notMem
    {s : List Char}
    (h : '"' ∉ s) :
    escapeQuotes s = s := by
  induction s with
  | nil => rfl
  | cons c s ih =>
      rw [escapeQuotes_cons, if_neg (Ne.symm (List.ne_of_not_mem_cons h)),
        ih (List.not_mem_of_not_mem_cons h)]

/-- **An argument is read as it was before it was put in quotes.** -/
theorem isReadAs_unquote
    {arg : List Char}
    (hwrapped : ¬ IsWrapped arg)
    (h : IsVerbatim arg ∨ arg = ['"']) :
    IsReadAs (unquote arg) arg := by
  rcases h with h | rfl
  · have hunquote : unquote arg = arg := by
      unfold unquote
      split
      · exact escapeQuotes_of_notMem h.noQuote
      · next hlength =>
          rw [if_neg fun hquoted => hwrapped (isWrapped_iff.mpr ⟨hlength, .inl hquoted⟩),
            if_neg fun hquoted => hwrapped (isWrapped_iff.mpr ⟨hlength, .inr hquoted⟩)]
    rw [hunquote]
    exact h.isReadAs
  · exact isReadAs_escapedQuote

theorem quoteArgs_cons
    (dialect name : List Char)
    (args : List (List Char)) :
    quoteArgs dialect (name :: args) =
      (unquote (dialect ++ name) :: args.map unquote).map fun s => '"' :: s ++ ['"'] := by
  rw [quoteArgs, List.map_cons, List.map_map]
  rfl

theorem isReadAs_callLead_append
    {name : List Char}
    (h : IsVerbatim name) :
    IsReadAs (unquote (callLead ++ name)) (callLead ++ name) := by
  refine isReadAs_unquote ?_ (.inl ?_)
  · rintro ⟨quote, inner, hquote, hname⟩
    rcases hquote with rfl | rfl <;> cases (List.cons.inj hname).1
  · exact (((h.cons (by decide) (by decide)).cons (by decide) (by decide)).cons
      (by decide) (by decide)).cons (by decide) (by decide)

theorem callItems_joinWith
    {items : List (List Char)}
    (hne : items ≠ [])
    (hcomma : ∀ item ∈ items, ',' ∉ item) :
    callItems (Text.joinWith [',', ' '] items) = items := by
  cases items with
  | nil => exact absurd rfl hne
  | cons item items =>
      cases items with
      | nil =>
          have hitem := hcomma item List.mem_cons_self
          rw [callItems, Text.joinWith, if_neg, Text.splitOn_of_notMem hitem]
          rw [Text.occurs_iff]
          exact fun hocc => hitem (hocc.subset List.mem_cons_self)
      | cons item' items =>
          rw [callItems, if_pos, Text.splitOnPair_joinWith hne hcomma]
          rw [Text.occurs_iff, Text.joinWith_cons_cons]
          exact List.infix_append _ _ _

end Canonical

/-! ## Domains in front of a call -/

/-- The ASCII characters of the text are letters, digits, hyphens, dots and commas. -/
def IsDomainText (s : List Char) : Prop :=
  ∀ c ∈ s, Text.isAscii c → Domain.isAlphanumeric c ∨ c = '-' ∨ c = '.' ∨ c = ','

instance (s : List Char) : Decidable (IsDomainText s) := List.decidableBAll _ s

theorem IsDomainText.notMem
    {s : List Char}
    (h : IsDomainText s)
    {c : Char}
    (hascii : Text.isAscii c)
    (hc : ¬ (Domain.isAlphanumeric c ∨ c = '-' ∨ c = '.' ∨ c = ',')) :
    c ∉ s :=
  fun hmem => hc (h c hmem hascii)

namespace DomainItem

theorem exists_readAll_iff
    {list : List (List Char)} :
    (∃ items, readAll list = .ok items) ↔ ∀ item ∈ list, ∃ first, read item = .ok first := by
  rw [readAll_eq_mapM, exists_mapM_eq_ok_iff]

/-- The item of a plain domain list is long enough and can be encoded. -/
def IsDomain (item : List Char) : Prop :=
  2 ≤ Text.byteLength item ∧ (Domain.toAscii (String.ofList item)).isSome

instance (item : List Char) : Decidable (IsDomain item) :=
  inferInstanceAs (Decidable (_ ∧ _))

theorem exists_read_iff
    {item : List Char}
    (htilde : '~' ∉ item)
    (hslash : '/' ∉ item) :
    (∃ first, read item = .ok first) ↔ IsDomain item := by
  have hcut : Text.cutTilde item = (false, item) := by
    cases item with
    | nil => rfl
    | cons c item =>
        unfold Text.cutTilde
        split
        · next heq => exact absurd (by rw [heq]; exact List.mem_cons_self) htilde
        · rfl
  have hregex : Pattern.isLiteralRegex (String.ofList item) = false :=
    Pattern.isLiteralRegex_of_notMem (by rwa [String.toList_ofList])
  rw [read, hcut]
  dsimp only
  unfold readDomain IsDomain
  cases item with
  | nil => simp [Text.byteLength]
  | cons c item =>
      rw [if_neg (by simp), if_neg htilde]
      by_cases hshort : Text.byteLength (c :: item) < 2
      · rw [if_pos hshort]
        simp [Nat.not_le.mpr hshort]
      · rw [if_neg hshort, hregex]
        cases Domain.toAscii (String.ofList (c :: item)) <;> simp [Nat.not_lt.mp hshort]

end DomainItem

/-- **A plain list of domains is read if each of them can be read.** -/
theorem PageScope.exists_parse_iff
    {s : List Char}
    (h : IsDomainText s) :
    (∃ scope, parse s = .ok scope) ↔
      s = [] ∨ ∀ item ∈ Text.splitOn ',' s, DomainItem.IsDomain item := by
  by_cases hnil : s = []
  · subst hnil
    exact ⟨fun _ => .inl rfl, fun _ => ⟨everywhere, rfl⟩⟩
  · have hstar : s ≠ ['*'] := by
      rintro rfl
      exact h.notMem (by decide) (by decide) List.mem_cons_self
    have hbracket : s.head? ≠ some '[' := fun hhead =>
      h.notMem (by decide) (by decide) (List.mem_of_head? hhead)
    have hitems : (∀ item ∈ Text.splitOn ',' s, ∃ first, DomainItem.read item = .ok first) ↔
        ∀ item ∈ Text.splitOn ',' s, DomainItem.IsDomain item := by
      refine forall₂_congr fun item hitem => DomainItem.exists_read_iff ?_ ?_
      · exact fun hmem => h.notMem (by decide) (by decide) (Text.mem_of_mem_splitOn hitem hmem)
      · exact fun hmem => h.notMem (by decide) (by decide) (Text.mem_of_mem_splitOn hitem hmem)
    rw [parse_of_head?_ne hbracket, if_neg (not_or.mpr ⟨hnil, hstar⟩), addDomains,
      DomainScope.ofList, ← hitems, ← DomainItem.exists_readAll_iff, or_iff_right hnil]
    cases DomainItem.readAll (Text.splitOn ',' s) <;> simp

namespace CosmeticRule

/-- A call is read if the domains in front of it are. -/
theorem exists_parse_iff_of_call
    {line : List Char}
    {cut : Marker.Cut}
    (hcut : Marker.find? line = some cut)
    (hmarker : cut.marker = .script)
    (hcall : Scriptlet.isCall (String.ofList cut.content))
    {call : Scriptlet}
    (hparse : Scriptlet.parse (String.ofList cut.content) = .ok call)
    (version : HostVersion) :
    (∃ rule, parse version (String.ofList line) = .ok rule ∧
        rule.content = String.ofList cut.content) ↔
      ∃ scope, PageScope.parse cut.domains = .ok scope := by
  have hcontent : cut.content.isEmpty = false := by
    cases hnil : cut.content with
    | nil =>
        rw [hnil] at hcall
        cases hcall
    | cons c content => rfl
  have hread : readCall .script (String.ofList cut.content) = .ok true := by
    rw [readCall, if_pos ⟨rfl, hcall⟩, hparse]
  rw [parse, String.toList_ofList, hcut]
  dsimp only
  rw [ofCut, hcontent, if_neg Bool.false_ne_true, hmarker]
  simp only [Marker.kind?, hread]
  cases PageScope.parse cut.domains with
  | error e => simp
  | ok scope => simp [validate, Marker.isException]

end CosmeticRule

namespace Canonical

open Scriptlet

/-- The line of a call of the first dialect, cut at its marker. -/
def callCut (domains items : List Char) : Marker.Cut :=
  { domains, marker := .hide, content := callSign ++ '(' :: items ++ [')'] }

/-- The line of a call of the first dialect. -/
def callText (domains items : List Char) : List Char :=
  (callCut domains items).rebuild .hide (callCut domains items).content

theorem find?_callText
    {domains : List Char}
    (h : IsDomainText domains)
    (items : List Char) :
    Marker.find? (callText domains items) = some (callCut domains items) := by
  rw [Marker.find?_eq_some_iff]
  refine ⟨?_, rfl, ?_⟩
  · have hpipe : '|' ∉ domains := h.notMem (by decide) (by decide)
    have hat : '@' ∉ domains := h.notMem (by decide) (by decide)
    have hlength : 2 < Text.byteLength (callText domains items) := by
      have hlead : 2 < Text.byteLength "##+js(".toList := by decide
      have hsplit : callText domains items = domains ++ ("##+js(".toList ++ (items ++ [')'])) := by
        simp [callText, callCut, Marker.Cut.rebuild, Marker.text, callSign]
      rw [hsplit, Text.byteLength_append, Text.byteLength_append]
      omega
    rw [Marker.isNetworkLine, decide_eq_false (Nat.not_le.mpr hlength), Bool.false_or,
      Bool.or_eq_false_iff, beq_eq_false_iff_ne, beq_eq_false_iff_ne]
    cases domains with
    | nil => exact ⟨by simp [callText, callCut, Marker.Cut.rebuild, Marker.text],
        by simp [callText, callCut, Marker.Cut.rebuild, Marker.text]⟩
    | cons c domains =>
        refine ⟨fun hhead => hpipe ?_, fun hhead => hat ?_⟩
        · exact Option.some.inj hhead ▸ List.mem_cons_self
        · exact Option.some.inj hhead ▸ List.mem_cons_self
  · exact Marker.isClear_of_notMem (h.notMem (by decide) (by decide))
      (h.notMem (by decide) (by decide)) _

theorem betweenParentheses_callText
    {domains : List Char}
    (h : IsDomainText domains)
    (items : List Char) :
    betweenParentheses (callText domains items) = items := by
  have hopen : '(' ∉ domains ++ "##+js".toList := by
    rw [List.mem_append, not_or]
    exact ⟨h.notMem (by decide) (by decide), by decide⟩
  have hsplit : callText domains items = domains ++ "##+js".toList ++ '(' :: (items ++ [')']) := by
    simp [callText, callCut, Marker.Cut.rebuild, Marker.text, callSign]
  rw [hsplit, betweenParentheses, Text.breakAt?_append_cons hopen]
  dsimp only
  rw [Text.breakAtLast?_append_cons List.not_mem_nil]
  rfl

theorem ofChars_callText
    {domains : List Char}
    (h : IsDomainText domains)
    {name : List Char}
    (hname : name ≠ [])
    {args : List (List Char)}
    (hcomma : ∀ item ∈ name :: args, ',' ∉ item) :
    let items := Text.joinWith [',', ' '] (name :: args)
    ofChars (callText domains items) =
      .ok [callLine (callCut domains items) (quoteArgs callLead (name :: args))] := by
  intro items
  have hitems : betweenParentheses (callText domains items) = items :=
    betweenParentheses_callText h items
  have hne : items ≠ [] := by
    obtain ⟨c, name, rfl⟩ := List.exists_cons_of_ne_nil hname
    cases args <;> exact List.cons_ne_nil _ _
  rw [ofChars, find?_callText h]
  dsimp only
  rw [@ofCut_of_hiding (callCut domains items) (.inl rfl), if_pos, ofCall_eq_singleton,
    hitems, callItems_joinWith (List.cons_ne_nil _ _) hcomma]
  · rwa [hitems]
  · exact Text.beginsWith_iff.mpr ⟨'(' :: items ++ [')'], by simp [callCut]⟩

/-- **A call in double quotes says its name and its arguments.** -/
theorem parse_quoteArgs
    {name : List Char}
    (hname : IsVerbatim name)
    {args : List (List Char)}
    (hwrapped : ∀ arg ∈ args, ¬ IsWrapped arg)
    (hargs : ∀ arg ∈ args, IsVerbatim arg ∨ arg = ['"']) :
    Scriptlet.parse (String.ofList
        (Scriptlet.lead ++ Text.joinWith [',', ' '] (quoteArgs callLead (name :: args)) ++ [')'])) =
      .ok { name := String.ofList (callLead ++ name), args := args.map String.ofList } := by
  have hitems : List.Forall₂ IsReadAs (unquote (callLead ++ name) :: args.map unquote)
      ((callLead ++ name) :: args) := by
    refine .cons (isReadAs_callLead_append hname) ?_
    rw [List.forall₂_map_left_iff, List.forall₂_same]
    exact fun arg harg => isReadAs_unquote (hwrapped arg harg) (hargs arg harg)
  have hread := readOutside_joinWith
    (List.forall₂_map_left_iff.mpr (hitems.imp fun _ _ => IsReadAs.isItem))
  rw [← quoteArgs_cons] at hread
  exact parse_of_readOutside (by simp [callLead]) hread

/-- **The arguments of a call survive its rewriting.**  The line of a call becomes one
line, whose content says the name and the arguments of the call.  It is a rule if the
domains in front of it are. -/
theorem lines_call
    {domains name : String}
    {args : List String}
    (hdomains : IsDomainText domains.toList)
    (hname : name ≠ "")
    (hcomma : ∀ item ∈ name :: args, ',' ∉ item.toList)
    (hwrapped : ∀ item ∈ name :: args, ¬ IsWrapped item.toList)
    (hverbatim : IsVerbatim name.toList)
    (hargs : ∀ arg ∈ args, IsVerbatim arg.toList ∨ arg = "\"")
    (version : HostVersion) :
    ∃ line content,
      lines (domains ++ "##+js(" ++ ", ".intercalate (name :: args) ++ ")") = .ok [line] ∧
        Scriptlet.parse content = .ok { name := "ubo-" ++ name, args } ∧
        ((∃ rule, CosmeticRule.parse version line = .ok rule ∧ rule.content = content) ↔
          domains = "" ∨ ∀ item ∈ Text.splitOn ',' domains.toList, DomainItem.IsDomain item) := by
  let items := name.toList :: args.map String.toList
  let cut := callCut domains.toList (Text.joinWith [',', ' '] items)
  obtain ⟨content, hcontent⟩ : ∃ content, content =
    Scriptlet.lead ++ Text.joinWith [',', ' '] (quoteArgs callLead items) ++ [')'] := ⟨_, rfl⟩
  have hsource : (domains ++ "##+js(" ++ ", ".intercalate (name :: args) ++ ")").toList =
      callText domains.toList (Text.joinWith [',', ' '] items) := by
    simp [callText, callCut, Marker.Cut.rebuild, Marker.text, callSign, String.toList_intercalate,
      Text.joinWith_eq_intercalate, items]
  have hnil : name.toList ≠ [] := fun hnil => hname (String.toList_eq_nil_iff.mp hnil)
  have hline : ofChars (callText domains.toList (Text.joinWith [',', ' '] items)) =
      .ok [cut.rebuild .script content] := by
    rw [hcontent]
    refine ofChars_callText hdomains hnil ?_
    simpa only [List.forall_mem_cons, List.forall_mem_map] using hcomma
  have hparse : Scriptlet.parse (String.ofList content) = .ok { name := "ubo-" ++ name, args } := by
    rw [hcontent, parse_quoteArgs hverbatim]
    · rw [String.ofList_append, String.ofList_toList, List.map_map]
      simp [Function.comp_def, callLead]
    · rw [List.forall_mem_map]
      exact fun arg harg => hwrapped arg (List.mem_cons_of_mem name harg)
    · rw [List.forall_mem_map]
      exact fun arg harg => (hargs arg harg).imp_right fun h => congrArg String.toList h
  have hcall : Scriptlet.isCall (String.ofList content) := by
    rw [Scriptlet.isCall, Text.beginsWith_iff, String.toList_ofList, hcontent, List.append_assoc]
    exact List.prefix_append _ _
  have hfind : Marker.find? (cut.rebuild .script content) =
      some ⟨domains.toList, .script, content⟩ :=
    Marker.find?_rebuild (find?_callText hdomains _)
      (show Marker.hide.text.toList.head? = some '#' by decide) (by decide) (by decide) content
  refine ⟨String.ofList (cut.rebuild .script content), String.ofList content, ?_, hparse, ?_⟩
  · rw [lines, hsource, hline]
    rfl
  · rw [CosmeticRule.exists_parse_iff_of_call hfind rfl hcall hparse,
      PageScope.exists_parse_iff hdomains, String.toList_eq_nil_iff]

/-- A call for two domains with a quote of either kind, a backslash and blanks. -/
theorem lines_call_backslash :
    ∃ line rule,
      lines ("a.example,b-2.example" ++ "##+js(" ++
          ", ".intercalate ["log", "it's", "\"", "", " a\\b "] ++ ")") = .ok [line] ∧
        CosmeticRule.parse .v16_4 line = .ok rule ∧
        Scriptlet.parse rule.content =
          .ok { name := "ubo-log", args := ["it's", "\"", "", " a\\b "] } := by
  have hverbatim (s : List Char) (h : '"' ∉ s ∧ ¬ ['\\', '\\'] <:+: s ∧ s.getLast? ≠ some '\\') :
      IsVerbatim s :=
    ⟨h.1, h.2.1, h.2.2⟩
  obtain ⟨line, content, hline, hparse, haccepted⟩ :=
    @lines_call "a.example,b-2.example" "log" ["it's", "\"", "", " a\\b "] (by decide) (by decide)
      (by decide) (by decide) (hverbatim _ (by decide))
      (by
        simp only [List.forall_mem_cons, or_true, true_and]
        exact ⟨.inl (hverbatim _ (by decide)), .inl (hverbatim _ (by decide)),
          .inl (hverbatim _ (by decide)), List.forall_mem_nil _⟩)
      .v16_4
  obtain ⟨rule, hrule, rfl⟩ := haccepted.mpr (.inr (by decide))
  exact ⟨line, rule, hline, hrule, hparse⟩

/-- A domain of one letter is too short for a rule. -/
theorem lines_call_shortDomain :
    IsDomainText "a".toList ∧ ',' ∉ "x".toList ∧ ¬ IsWrapped "x".toList ∧
      lines ("a" ++ "##+js(" ++ ", ".intercalate ["x"] ++ ")") =
        .ok ["a#%#//scriptlet(\"ubo-x\")"] ∧
      CosmeticRule.parse .v16_4 "a#%#//scriptlet(\"ubo-x\")" =
        .error (.domain (.tooShort "a")) :=
  ⟨by decide, by decide, by decide, rfl, by decide +kernel⟩

end Canonical
end FilterCompiler
