import FilterCompiler.Proofs.Checked.Marker
import FilterCompiler.Proofs.Checked.Pattern
import FilterCompiler.Proofs.Checked.Scriptlet
import FilterCompiler.Proofs.Rule.Outcomes

/-!
# Cosmetic rules read byte by byte

The bytes of a selector are walked over once; a name is a slice between the byte behind a
colon and the byte of a parenthesis, and an attribute is looked for from the byte of a
bracket on (`isExtended_eq`).  The options in brackets are a slice between the third byte
and the last bracket (`parseScope_eq`).  A line is cut at its marker, and what stands on
either side is read (`parseCosmetic_eq`).
-/

namespace FilterCompiler
namespace Checked

open Text (codes slice? sliceTo? sliceFrom?)

/-! ## Selectors -/

section Selectors

variable (version : HostVersion)

/-- The name of a pseudo-class asks for the extended engine. -/
def isExtendedName (name : List Char) : Bool :=
  !Selector.isNative version (String.ofList name)
    && (Text.beginsWith Selector.dialectLead name
      || Selector.extendedPseudoClasses.contains (String.ofList name))

/-- The name that begins at byte `start` and ends at byte `i` asks for the extended engine. -/
def endsName (selector : List Char) (start : Option Nat) (i : Nat) : Option Bool :=
  match start with
  | none => return false
  | some start =>
      if i < start + 2 then return false
      else return isExtendedName version (← slice? start i selector)

/-- Walks over the bytes of a selector from byte `i` on; the name that is being read begins
at byte `start`. -/
def scanFrom (selector : List Char) (start : Option Nat) (i : Nat) : List Char → Option Bool
  | [] => return false
  | b :: bytes => do
      if b = '[' then
        if Text.beginsWith Selector.extendedAttribute (← sliceFrom? i selector) then return true
        else scanFrom selector start (i + 1) bytes
      else if b = ':' then scanFrom selector (some (i + 1)) (i + 1) bytes
      else if b = '(' then
        if ← endsName version selector start i then return true
        else scanFrom selector none (i + 1) bytes
      else scanFrom selector start (i + 1) bytes

/-- The selector needs the extended engine. -/
def isExtended (selector : List Char) : Option Bool :=
  if Text.byteLength selector < 6 then return false
  else scanFrom version selector none 0 (codes selector)

variable {version} {selector : List Char} {start : Option Nat} {i : Nat}

theorem scanFrom_plain
    {b : Char}
    (hbracket : b ≠ '[')
    (hcolon : b ≠ ':')
    (hparenthesis : b ≠ '(')
    (bytes : List Char) :
    scanFrom version selector start i (b :: bytes) =
      scanFrom version selector start (i + 1) bytes := by
  rw [scanFrom, if_neg hbracket, if_neg hcolon, if_neg hparenthesis]

/-- Whatever is beyond ASCII is passed. -/
theorem scanFrom_append_of_not_isAscii
    {piece : List Char}
    (hpiece : ∀ b ∈ piece, ¬ Text.isAscii b)
    (bytes : List Char) :
    scanFrom version selector start i (piece ++ bytes) =
      scanFrom version selector start (i + piece.length) bytes := by
  induction piece generalizing i with
  | nil => rfl
  | cons b piece ih =>
      rw [List.forall_mem_cons] at hpiece
      have hne (d : Char) : Text.isAscii d → b ≠ d :=
        Text.ne_of_isAscii (Bool.eq_false_iff.mpr hpiece.1)
      rw [List.cons_append, scanFrom_plain (hne _ rfl) (hne _ rfl) (hne _ rfl), ih hpiece.2,
        List.length_cons, Nat.add_right_comm, Nat.add_assoc]

theorem beginsWith_extendedAttribute_of_ne
    {c : Char}
    (hc : c ≠ '[')
    (s : List Char) :
    Text.beginsWith Selector.extendedAttribute (c :: s) = false := by
  rw [Bool.eq_false_iff, Ne, Text.beginsWith_iff]
  exact fun h => hc (List.cons_prefix_cons.mp h).1.symm

theorem scan_plain
    {c : Char}
    (hbracket : c ≠ '[')
    (hcolon : c ≠ ':')
    (hparenthesis : c ≠ '(')
    (name : Option (List Char))
    (s : List Char) :
    Selector.scan version name (c :: s) = Selector.scan version (name.map (c :: ·)) s := by
  rw [Selector.scan, beginsWith_extendedAttribute_of_ne hbracket, if_neg Bool.false_ne_true,
    if_neg hcolon, if_neg hparenthesis]

theorem scan_bracket
    (name : Option (List Char))
    (s : List Char) :
    Selector.scan version name ('[' :: s) =
      (Text.beginsWith Selector.extendedAttribute ('[' :: s) ||
        Selector.scan version (name.map ('[' :: ·)) s) := by
  rw [Selector.scan]
  cases Text.beginsWith Selector.extendedAttribute ('[' :: s) <;> rfl

theorem scan_parenthesis
    (name : Option (List Char))
    (s : List Char) :
    Selector.scan version name ('(' :: s) =
      (name.any (fun n => Selector.isExtendedName version n.reverse) ||
        Selector.scan version none s) := rfl

/-- A name is a slice of the selector. -/
theorem endsName_eq
    (version : HostVersion)
    {before : List Char}
    {name : Option (List Char × List Char)}
    (hname : ∀ p ∈ name, before = p.1 ++ p.2.reverse)
    (rest : List Char) :
    endsName version (before ++ rest) (name.map fun p => Text.byteLength p.1)
        (Text.byteLength before) =
      some ((name.map Prod.snd).any fun n => Selector.isExtendedName version n.reverse) := by
  cases name with
  | none => rfl
  | some p =>
      obtain ⟨lead, name⟩ := p
      rw [hname _ rfl, Option.map_some, Option.map_some, endsName, Option.any_some,
        Selector.isExtendedName]
      dsimp only
      have hlength := Text.byteLength_append lead name.reverse
      by_cases hshort : Text.byteLength name.reverse < 2
      · rw [if_pos (by omega), decide_eq_false (Nat.not_le.mpr hshort)]
        rfl
      · have hslice : slice? (Text.byteLength lead) (Text.byteLength (lead ++ name.reverse))
            (lead ++ name.reverse ++ rest) = some name.reverse :=
          Text.slice?_eq_some_iff.mpr ⟨lead, rest, List.append_assoc _ _ _, rfl, rfl⟩
        rw [if_neg (by omega), hslice, decide_eq_true (Nat.not_lt.mp hshort), Bool.true_and]
        rfl

/-- **A walk that stands between two characters** goes on as the scan of the rest.  What
has been read is a part in front of the name and the name. -/
theorem scanFrom_eq
    {before rest : List Char}
    (name : Option (List Char × List Char))
    (hselector : selector = before ++ rest)
    (hname : ∀ p ∈ name, before = p.1 ++ p.2.reverse) :
    scanFrom version selector (name.map fun p => Text.byteLength p.1) (Text.byteLength before)
        (codes rest) =
      some (Selector.scan version (name.map Prod.snd) rest) := by
  induction rest generalizing before name with
  | nil => rfl
  | cons c rest ih =>
      have hselector' : selector = (before ++ [c]) ++ rest := by
        rw [hselector, List.append_assoc, List.singleton_append]
      have hgrown : ∀ p ∈ name.map fun p => (p.1, c :: p.2), before ++ [c] = p.1 ++ p.2.reverse := by
        simp only [Option.mem_def, Option.map_eq_some_iff]
        rintro _ ⟨p, hp, rfl⟩
        rw [hname p hp, List.reverse_cons, List.append_assoc]
      have hnext := ih _ hselector' hgrown
      rw [Option.map_map, Option.map_map] at hnext
      by_cases hc : Text.isAscii c
      · rw [Text.byteLength_concat _ hc] at hnext
        rw [Text.codes_cons_of_isAscii hc, scanFrom]
        by_cases hbracket : c = '['
        · subst hbracket
          have hslice : sliceFrom? (Text.byteLength before) selector = some ('[' :: rest) :=
            Text.sliceFrom?_eq_some_iff.mpr ⟨before, hselector, rfl⟩
          rw [if_pos rfl, hslice, Option.bind_eq_bind, Option.bind_some, scan_bracket,
            Option.map_map]
          cases Text.beginsWith Selector.extendedAttribute ('[' :: rest)
          · exact hnext
          · rfl
        by_cases hcolon : c = ':'
        · subst hcolon
          have hfresh := ih (some (before ++ [':'], [])) hselector' (by simp)
          rw [Text.byteLength_concat _ rfl, Option.map_some, Option.map_some,
            Text.byteLength_concat _ rfl] at hfresh
          exact hfresh
        by_cases hparenthesis : c = '('
        · subst hparenthesis
          have hclosed := ih none hselector' (by simp)
          rw [Text.byteLength_concat _ rfl] at hclosed
          have hends := endsName_eq version hname ('(' :: rest)
          rw [if_neg (by decide), if_neg (by decide), if_pos rfl, hselector, hends,
            Option.bind_eq_bind, Option.bind_some, scan_parenthesis, ← hselector]
          cases Option.any _ _
          · exact hclosed
          · rfl
        · rw [if_neg hbracket, if_neg hcolon, if_neg hparenthesis,
            scan_plain hbracket hcolon hparenthesis, Option.map_map]
          exact hnext
      · have hne (d : Char) : Text.isAscii d → c ≠ d := Text.ne_of_isAscii (Bool.eq_false_iff.mpr hc)
        rw [Text.codes_cons,
          scanFrom_append_of_not_isAscii (Text.not_isAscii_of_mem_codes hc), Text.length_codes,
          ← Text.byteLength_append, scan_plain (hne _ rfl) (hne _ rfl) (hne _ rfl),
          Option.map_map]
        exact hnext

theorem isExtended_eq
    (version : HostVersion)
    (selector : List Char) :
    isExtended version selector = some (Selector.isExtended version selector) := by
  rw [isExtended, Selector.isExtended]
  split
  · next hshort =>
      rw [decide_eq_false (Nat.not_le.mpr hshort)]
      rfl
  · next hlong =>
      rw [decide_eq_true (Nat.not_lt.mp hlong), Bool.true_and]
      exact scanFrom_eq none (List.nil_append selector).symm (by simp)

end Selectors

/-! ## What stands in front of a marker -/

/-- Reads a path condition. -/
def parsePath (value : List Char) : Option (Except LineError PageCondition) := do
  if value.isEmpty then return .error .pathMissing
  match ← compile (String.ofList value) with
  | .error pos => return .error (.nonAsciiPattern pos)
  | .ok regex =>
      match ← checkRegex regex with
      | .error e => return .error (.regex e)
      | .ok () => return .ok (.path { source := String.ofList value, regex })

/-- Reads an option in brackets; nothing but a path is walked over. -/
def parseOption (option : List Char) : Option (Except LineError PageCondition) :=
  if String.ofList (Text.nameAndValue option).1 = "path" then
    parsePath (Text.nameAndValue option).2
  else return PageCondition.parse option

/-- Reads the options in brackets, in order. -/
def parseOptions : List (List Char) → Option (Except LineError (List PageCondition))
  | [] => return .ok []
  | option :: options => do
      match ← parseOption option with
      | .error e => return .error e
      | .ok condition =>
          match ← parseOptions options with
          | .error e => return .error e
          | .ok conditions => return .ok (condition :: conditions)

/-- Reads the list of options that ends at byte `close` and the domains behind it. -/
def parseOptionList (domains : List Char) (close : Nat) :
    Option (Except LineError PageScope) := do
  let options ← slice? 2 close domains
  match ← parseOptions (Text.splitEscaped ',' options) with
  | .error e => return .error e
  | .ok conditions =>
      let scope := conditions.foldl PageScope.add .everywhere
      let list ← sliceFrom? (close + 1) domains
      if list.isEmpty then return .ok scope else return scope.addDomains list

/-- Reads what stands in front of a marker and begins with a bracket. -/
def parseBrackets (domains : List Char) : Option (Except LineError PageScope) := do
  let bytes := codes domains
  if bytes.length < 3 then return .error .notOptionList
  if (← bytes[1]?) ≠ '$' then return .error .notOptionList
  match Text.lastByte? ']' domains with
  | none => return .error .unclosedOptionList
  | some close =>
      if close < 2 then return .error .unclosedOptionList
      else parseOptionList domains close

/-- Reads what stands in front of a marker. -/
def parseScope (domains : List Char) : Option (Except LineError PageScope) :=
  if domains = [] ∨ domains = ['*'] then return .ok .everywhere
  else if domains.head? = some '[' then parseBrackets domains
  else return PageScope.everywhere.addDomains domains

theorem parsePath_eq
    (value : List Char) :
    parsePath value = some (PageCondition.ofPath value) := by
  rw [parsePath, compile_eq, PageCondition.ofPath, Option.bind_eq_bind, Option.bind_some]
  split
  · rfl
  cases Pattern.compile (String.ofList value) with
  | error pos => rfl
  | ok regex =>
      dsimp only
      rw [checkRegex_eq, Option.bind_eq_bind, Option.bind_some]
      cases Regex.check regex <;> rfl

theorem parseOption_eq
    (option : List Char) :
    parseOption option = some (PageCondition.parse option) := by
  rw [parseOption]
  split
  · next hpath =>
      rw [parsePath_eq, PageCondition.parse]
      dsimp only
      rw [hpath]
      rfl
  · rfl

theorem parseOptions_eq
    (options : List (List Char)) :
    parseOptions options = some (PageCondition.parseAll options) := by
  induction options with
  | nil => rfl
  | cons option options ih =>
      rw [parseOptions, parseOption_eq, PageCondition.parseAll, Option.bind_eq_bind,
        Option.bind_some]
      cases PageCondition.parse option with
      | error e => rfl
      | ok condition =>
          dsimp only
          rw [ih, Option.bind_eq_bind, Option.bind_some]
          cases PageCondition.parseAll options <;> rfl

/-- **The list of options is in the text.** -/
theorem parseOptionList_eq
    (options list : List Char) :
    parseOptionList ('[' :: '$' :: (options ++ ']' :: list))
        (Text.byteLength ('[' :: '$' :: options)) =
      some (PageScope.ofOptionList options list) := by
  have hoptions : slice? 2 (Text.byteLength ('[' :: '$' :: options))
      ('[' :: '$' :: (options ++ ']' :: list)) = some options :=
    Text.slice?_eq_some_iff.mpr ⟨['[', '$'], ']' :: list, rfl, rfl, rfl⟩
  have hlist : sliceFrom? (Text.byteLength ('[' :: '$' :: options) + 1)
      ('[' :: '$' :: (options ++ ']' :: list)) = some list :=
    Text.sliceFrom?_eq_some_iff.mpr
      ⟨'[' :: '$' :: options ++ [']'], by simp, Text.byteLength_concat _ rfl⟩
  rw [parseOptionList, hoptions, Option.bind_eq_bind, Option.bind_some, parseOptions_eq,
    Option.bind_eq_bind, Option.bind_some, PageScope.ofOptionList]
  cases PageCondition.parseAll (Text.splitEscaped ',' options) with
  | error e => rfl
  | ok conditions =>
      dsimp only
      rw [hlist, Option.bind_some]
      split <;> rfl

theorem parseBrackets_of_dollar
    (c : Char)
    (s : List Char) :
    parseBrackets ('[' :: '$' :: c :: s) = some (PageScope.parse ('[' :: '$' :: c :: s)) := by
  have hbytes : codes ('[' :: '$' :: c :: s) = '[' :: '$' :: codes (c :: s) := by
    rw [Text.codes_cons_of_isAscii rfl, Text.codes_cons_of_isAscii rfl]
  have hlong : ¬ ('[' :: '$' :: codes (c :: s)).length < 3 := by
    have hpos := c.utf8Size_pos
    rw [List.length_cons, List.length_cons, Text.length_codes, Text.byteLength]
    omega
  have hlast : Text.breakAtLast? ']' ('[' :: '$' :: c :: s) =
      (Text.breakAtLast? ']' (c :: s)).map fun p => ('[' :: '$' :: p.1, p.2) := by
    rw [Text.breakAtLast?, Text.breakAtLast?]
    cases Text.breakAtLast? ']' (c :: s) <;> rfl
  rw [parseBrackets, hbytes, if_neg hlong, Text.lastByte?, hlast, PageScope.parse]
  cases hbreak : Text.breakAtLast? ']' (c :: s) with
  | none => rfl
  | some p =>
      obtain ⟨options, list⟩ := p
      have htext : c :: s = options ++ ']' :: list := Text.breakAtLast?_eq_some hbreak
      have hclose : ¬ Text.byteLength ('[' :: '$' :: options) < 2 := by
        have hbracket : '['.utf8Size = 1 := rfl
        have hdollar : '$'.utf8Size = 1 := rfl
        rw [Text.byteLength, Text.byteLength]
        omega
      rw [htext]
      exact (if_neg hclose).trans (parseOptionList_eq options list)

theorem parseBrackets_of_head?_ne_dollar
    {s : List Char}
    (h : s.head? ≠ some '$') :
    parseBrackets ('[' :: s) = some (.error .notOptionList) := by
  rw [parseBrackets, Text.codes_cons_of_isAscii rfl]
  split
  · rfl
  · next hlong =>
      rw [List.length_cons] at hlong
      have hget := List.getElem?_eq_getElem (l := codes s) (i := 0) (by omega)
      have hdollar : (codes s)[0] ≠ '$' := by
        rwa [Ne, ← Text.head?_codes_eq_some_iff rfl, List.head?_eq_getElem?, hget,
          Option.some.injEq] at h
      rw [List.getElem?_cons_succ, hget, Option.bind_eq_bind, Option.bind_some, if_pos hdollar]
      rfl

theorem parseBrackets_eq
    (s : List Char) :
    parseBrackets ('[' :: s) = some (PageScope.parse ('[' :: s)) := by
  by_cases h : s.head? = some '$'
  · obtain ⟨rest, rfl⟩ := List.head?_eq_some_iff.mp h
    cases rest with
    | nil => rfl
    | cons c rest => exact parseBrackets_of_dollar c rest
  · rw [parseBrackets_of_head?_ne_dollar h, PageScope.parse_of_head?_ne_dollar h]

/-- **What stands in front of a marker is read without leaving it.** -/
theorem parseScope_eq
    (domains : List Char) :
    parseScope domains = some (PageScope.parse domains) := by
  rw [parseScope]
  by_cases hbracket : domains.head? = some '['
  · obtain ⟨rest, rfl⟩ := List.head?_eq_some_iff.mp hbracket
    rw [if_neg (by simp), if_pos hbracket, parseBrackets_eq]
  · rw [if_neg hbracket, PageScope.parse_of_head?_ne hbracket]
    split <;> rfl

/-! ## Rules -/

/-- The content is a call in a script rule, or the fault of a call that cannot be read. -/
def readCall (kind : CosmeticKind) (content : String) : Option (Except LineError Bool) := do
  if kind = .script ∧ Scriptlet.isCall content then
    match ← parseCall content with
    | .ok _ => return .ok true
    | .error fault => return .error (.scriptlet fault)
  else return .ok false

/-- Reads a cosmetic rule. -/
def parseCosmetic (version : HostVersion) (line : String) :
    Option (Except LineError CosmeticRule) := do
  match ← findMarker line.toList with
  | none => return .error .noMarker
  | some (index, marker) =>
      let content ← sliceFrom? (index + marker.text.toList.length) line.toList
      if content.isEmpty then return .error .noContent
      match marker.kind? with
      | none => return .error .htmlRule
      | some kind =>
          match ← readCall kind (String.ofList content) with
          | .error e => return .error e
          | .ok isScriptlet =>
              let domains ← sliceTo? index line.toList
              match ← parseScope domains with
              | .error e => return .error e
              | .ok scope =>
                  let isExtended ←
                    if marker.isExtended then some true else isExtended version content
                  return CosmeticRule.validate
                    { header :=
                        { text := line, isException := marker.isException,
                          isImportant := false, scope := scope.domains }
                      content := String.ofList content
                      kind
                      isExtended
                      isScriptlet
                      path := scope.path }

theorem readCall_eq
    (kind : CosmeticKind)
    (content : String) :
    readCall kind content = some (CosmeticRule.readCall kind content) := by
  rw [readCall, CosmeticRule.readCall, parseCall_eq, Option.bind_eq_bind, Option.bind_some]
  split
  · cases Scriptlet.parse content <;> rfl
  · rfl

/-- **A cosmetic rule is read without leaving its line.** -/
theorem parseCosmetic_eq
    (version : HostVersion)
    (line : String) :
    parseCosmetic version line = some (CosmeticRule.parse version line) := by
  rw [parseCosmetic, findMarker_eq, CosmeticRule.parse, Option.bind_eq_bind, Option.bind_some]
  cases hcut : Marker.find? line.toList with
  | none => rfl
  | some cut =>
      obtain ⟨hdomains, -, hcontent⟩ := slices_of_find? hcut
      dsimp only [Option.map_some, Marker.Cut.place] at hdomains hcontent ⊢
      rw [hcontent, Option.bind_eq_bind, Option.bind_some, CosmeticRule.ofCut]
      split
      · rfl
      cases cut.marker.kind? with
      | none => rfl
      | some kind =>
          dsimp only
          rw [readCall_eq, Option.bind_eq_bind, Option.bind_some]
          cases CosmeticRule.readCall kind (String.ofList cut.content) with
          | error e => rfl
          | ok isScriptlet =>
              dsimp only
              rw [hdomains, Option.bind_eq_bind, Option.bind_some, parseScope_eq,
                Option.bind_some]
              cases PageScope.parse cut.domains with
              | error e => rfl
              | ok scope =>
                  dsimp only
                  rw [isExtended_eq]
                  cases cut.marker.isExtended <;> rfl

end Checked
end FilterCompiler
