import FilterCompiler.Proofs.Pattern.Dialect
import FilterCompiler.Proofs.Pattern.Host
import FilterCompiler.Proofs.Text.Slice

/-!
# Patterns read byte by byte

The body of a literal regex is a slice between its slashes (`literalRegex?_eq`).  The
translation of a pattern and the check of a regex walk over the bytes by number.  A walk
that stands between two characters does with the rest of the bytes what the function on
characters does with the rest of the text (`translateFrom_eq`, `checkFrom_eq`).
-/

namespace FilterCompiler
namespace Checked

open Text (codes sub? slice?)

/-! ## Walking over bytes -/

section Walk

variable {c : Char} (before rest : List Char)

theorem getElem?_codes_append :
    (codes (before ++ rest))[Text.byteLength before]? = (codes rest).head? := by
  rw [← List.head?_drop, Text.drop_codes_append]

theorem getElem?_codes_append_cons
    (hc : Text.isAscii c) :
    (codes (before ++ c :: rest))[Text.byteLength before]? = some c := by
  rw [getElem?_codes_append, Text.codes_cons_of_isAscii hc, List.head?_cons]

/-- The byte behind an ASCII character is the first one of what follows. -/
theorem getElem?_codes_append_cons_succ
    (hc : Text.isAscii c) :
    (codes (before ++ c :: rest))[Text.byteLength before + 1]? = (codes rest).head? := by
  have hnext := getElem?_codes_append (before ++ [c]) rest
  rwa [List.append_assoc, List.singleton_append, Text.byteLength_append, Text.byteLength,
    Text.byteLength, Text.utf8Size_of_isAscii hc] at hnext

/-- A character beyond ASCII begins with a byte beyond ASCII. -/
theorem exists_getElem?_codes_append_cons
    (hc : Text.isAscii c = false) :
    ∃ b, (codes (before ++ c :: rest))[Text.byteLength before]? = some b ∧
      Text.isAscii b = false := by
  obtain ⟨b, hhead, hb⟩ :=
    Text.exists_head?_codes (Text.ignoresForeign_of_isAscii fun _ => id) c rest
  exact ⟨b, (getElem?_codes_append before (c :: rest)).trans hhead, hb.trans hc⟩

theorem isNone_head?_codes :
    (codes rest).head?.isNone = rest.isEmpty := by
  cases rest with
  | nil => rfl
  | cons c rest =>
      obtain ⟨b, hhead, -⟩ :=
        Text.exists_head?_codes (Text.ignoresForeign_of_isAscii fun _ => id) c rest
      rw [hhead]
      rfl

/-- An ASCII character is the last byte if nothing follows it. -/
theorem isLast_iff
    (hc : Text.isAscii c)
    {pos : Nat}
    (hpos : Text.byteLength before = pos) :
    decide ((codes (before ++ c :: rest)).length ≤ pos + 1) = rest.isEmpty := by
  rw [Bool.eq_iff_iff, decide_eq_true_eq, List.isEmpty_iff, Text.length_codes,
    Text.byteLength_append, Text.byteLength, Text.utf8Size_of_isAscii hc, hpos]
  constructor
  · intro hle
    exact Text.eq_nil_of_byteLength_eq_zero (by omega)
  · rintro rfl
    rw [Text.byteLength]

end Walk

/-! ## Regexes between slashes -/

/-- The text between the slashes of a pattern that is written as a regex. -/
def literalRegex? (pattern : String) : Option (Option String) :=
  let s := pattern.toList
  if 2 < Text.byteLength s ∧ Text.beginsWith ['/'] s ∧ Text.endsWithChar '/' s then do
    let stop ← sub? (Text.byteLength s) 1
    let body ← slice? 1 stop s
    return some (String.ofList body)
  else return none

theorem isSlashed_iff
    {s : List Char} :
    2 < Text.byteLength s ∧ Text.beginsWith ['/'] s ∧ Text.endsWithChar '/' s ↔
      ∃ body, body ≠ [] ∧ s = '/' :: (body ++ ['/']) := by
  rw [Text.beginsWith_iff, Text.endsWithChar, beq_iff_eq]
  constructor
  · rintro ⟨hlength, ⟨rest, rfl⟩, hlast⟩
    rcases List.eq_nil_or_concat rest with rfl | ⟨body, c, rfl⟩
    · exact absurd hlength (by decide)
    · rw [List.concat_eq_append, ← List.append_assoc, List.getLast?_concat, Option.some.injEq]
        at hlast
      subst hlast
      refine ⟨body, ?_, by simp⟩
      rintro rfl
      exact absurd hlength (by decide)
  · rintro ⟨body, hne, rfl⟩
    have hpos : Text.byteLength body ≠ 0 := mt Text.eq_nil_of_byteLength_eq_zero hne
    refine ⟨?_, List.prefix_append ['/'] (body ++ ['/']), ?_⟩
    · have hslash : '/'.utf8Size = 1 := rfl
      simp only [Text.byteLength, Text.byteLength_append, hslash]
      omega
    · rw [← List.cons_append, List.getLast?_concat]

/-- **The body of a literal regex is in the pattern.** -/
theorem literalRegex?_eq
    (pattern : String) :
    literalRegex? pattern = some (Pattern.literalRegex? pattern) := by
  rw [literalRegex?]
  split
  · next hslashed =>
      obtain ⟨body, hne, hs⟩ := isSlashed_iff.mp hslashed
      have hslash : '/'.utf8Size = 1 := rfl
      have hslice : slice? 1 (Text.byteLength pattern.toList - 1) pattern.toList = some body := by
        refine Text.slice?_eq_some_iff.mpr ⟨['/'], ['/'], by rw [hs]; rfl, rfl, ?_⟩
        simp only [hs, Text.byteLength, Text.byteLength_append, hslash]
        omega
      have hbody : Pattern.literalRegex? pattern = some (String.ofList body) := by
        rw [Pattern.literalRegex?_eq_some_iff, String.toList_ofList]
        exact ⟨mt String.ofList_eq_empty_iff.mp hne, hs⟩
      rw [Text.sub?_of_le (by omega), Option.bind_eq_bind, Option.bind_some, hslice, hbody]
      rfl
  · next hslashed =>
      rw [isSlashed_iff] at hslashed
      have hnone : Pattern.literalRegex? pattern = none := by
        rw [Option.eq_none_iff_forall_ne_some]
        intro body hbody
        obtain ⟨hne, hs⟩ := Pattern.literalRegex?_eq_some_iff.mp hbody
        exact hslashed ⟨body.toList, mt String.toList_eq_nil_iff.mp hne, hs⟩
      rw [hnone]
      rfl

/-! ## Translation -/

/-- The regex of a pattern from byte `pos` on, behind what has been written. -/
def translateFrom (bytes : List Char) (pos : Nat) (inHost : Bool) (out : List Char) :
    Option (Except Nat (List Char)) :=
  if pos < bytes.length then do
    let b ← bytes[pos]?
    let next := bytes[pos + 1]?
    if b = '.' then translateFrom bytes (pos + 1) inHost (out ++ ['\\', b])
    else if Pattern.isEscaped b then translateFrom bytes (pos + 1) false (out ++ ['\\', b])
    else if b = '|' then
      if pos = 0 then
        if next = some '|' then translateFrom bytes (pos + 2) true (out ++ Pattern.hostAnchor.toList)
        else translateFrom bytes (pos + 1) inHost (out ++ ['^'])
      else if next = none then translateFrom bytes (pos + 1) inHost (out ++ ['$'])
      else translateFrom bytes (pos + 1) inHost (out ++ ['\\', '|'])
    else if b = '^' then
      if inHost then translateFrom bytes (pos + 1) false (out ++ Pattern.hostSeparator.toList)
      else if next = none then
        translateFrom bytes (pos + 1) inHost (out ++ Pattern.endSeparator.toList)
      else translateFrom bytes (pos + 1) inHost (out ++ Pattern.separator.toList)
    else if b = '*' then translateFrom bytes (pos + 1) false (out ++ Pattern.matchAll.toList)
    else if ¬ Text.isAscii b then return .error pos
    else translateFrom bytes (pos + 1) (inHost && b ≠ ':') (out ++ [b])
  else return .ok out
termination_by bytes.length - pos

/-- The regex source of a pattern. -/
def toRegex (pattern : String) : Option (Except Nat String) :=
  if pattern = "" ∨ pattern = "*" ∨ pattern = "|" ∨ pattern = "||" then
    return .ok Pattern.matchAll
  else do
    let regex ← translateFrom (codes pattern.toList) 0 false []
    return regex.map String.ofList

/-- The regex source of a pattern, be it written as a regex or not. -/
def compile (pattern : String) : Option (Except Nat String) := do
  match ← literalRegex? pattern with
  | some body => return .ok body
  | none => toRegex pattern

section Translation

variable {bytes : List Char} {pos : Nat} {inHost : Bool} {c : Char} (out : List Char)

/-- A walk that stands at an ASCII character writes it, the bar in front apart. -/
theorem translateFrom_of_isAscii
    (hget : bytes[pos]? = some c)
    (hc : Text.isAscii c)
    (hbar : c = '|' → pos ≠ 0) :
    translateFrom bytes pos inHost out =
      translateFrom bytes (pos + 1) (inHost && (c != '^' && !Pattern.leavesHost c))
        (out ++ Pattern.written inHost c bytes[pos + 1]?.isNone) := by
  obtain ⟨hpos, -⟩ := List.getElem?_eq_some_iff.mp hget
  rw [translateFrom, if_pos hpos, hget, Option.bind_eq_bind, Option.bind_some]
  by_cases hdot : c = '.'
  · subst hdot
    simp [Pattern.written, Pattern.leavesHost]
  by_cases hescaped : Pattern.isEscaped c = true
  · simp [Pattern.written, Pattern.leavesHost_eq, hdot, hescaped]
  by_cases hbar' : c = '|'
  · subst hbar'
    cases bytes[pos + 1]? <;>
      simp [Pattern.written, Pattern.leavesHost, Pattern.isEscaped, hbar rfl]
  by_cases hcaret : c = '^'
  · subst hcaret
    cases inHost <;> cases bytes[pos + 1]? <;> simp [Pattern.written, Pattern.isEscaped]
  by_cases hstar : c = '*'
  · subst hstar
    simp [Pattern.written, Pattern.leavesHost, Pattern.isEscaped]
  have hflag : (c != '^' && !Pattern.leavesHost c) = decide (c ≠ ':') := by
    rw [Bool.eq_iff_iff]
    simp [Pattern.leavesHost_eq, hescaped, hcaret, hstar]
  simp [Pattern.written, hdot, hescaped, hbar', hcaret, hstar, hc, hflag]

theorem translateFrom_of_not_isAscii
    (hget : bytes[pos]? = some c)
    (hc : Text.isAscii c = false) :
    translateFrom bytes pos inHost out = some (.error pos) := by
  obtain ⟨hpos, -⟩ := List.getElem?_eq_some_iff.mp hget
  have hne := fun d => Text.ne_of_isAscii (d := d) hc
  rw [translateFrom, if_pos hpos, hget, Option.bind_eq_bind, Option.bind_some]
  simp [Pattern.isEscaped_of_not_isAscii hc, hc, hne '.' (by decide), hne '|' (by decide),
    hne '^' (by decide), hne '*' (by decide)]

end Translation

theorem emit_emit
    (s t : List Char)
    (regex : Except Nat (List Char)) :
    Pattern.emit s (Pattern.emit t regex) = Pattern.emit (s ++ t) regex := by
  cases regex <;> simp [Pattern.emit]

/-- **A walk that stands between two characters translates the rest of the pattern.** -/
theorem translateFrom_eq
    (before rest : List Char)
    (inHost : Bool)
    (out : List Char)
    (hbar : rest.head? = some '|' → before ≠ []) :
    translateFrom (codes (before ++ rest)) (Text.byteLength before) inHost out =
      some (Pattern.emit out (Pattern.regexFrom (Text.byteLength before) inHost rest)) := by
  induction rest generalizing before inHost out with
  | nil =>
      rw [translateFrom, List.append_nil, Text.length_codes, if_neg (Nat.lt_irrefl _)]
      simp [Pattern.regexFrom, Pattern.emit]
  | cons c rest ih =>
      cases hc : Text.isAscii c with
      | true =>
          have hpos : c = '|' → Text.byteLength before ≠ 0 := fun h =>
            mt Text.eq_nil_of_byteLength_eq_zero (hbar (congrArg some h))
          have hnext := ih (before ++ [c]) (inHost && (c != '^' && !Pattern.leavesHost c))
            (out ++ Pattern.written inHost c rest.isEmpty)
            fun _ => List.append_ne_nil_of_right_ne_nil _ (List.cons_ne_nil _ _)
          rw [List.append_assoc, List.singleton_append, Text.byteLength_concat before hc] at hnext
          rw [translateFrom_of_isAscii out (getElem?_codes_append_cons before rest hc) hc hpos,
            getElem?_codes_append_cons_succ before rest hc, isNone_head?_codes, hnext,
            Pattern.regexFrom_cons _ _ _ hc, emit_emit]
      | false =>
          obtain ⟨b, hget, hb⟩ := exists_getElem?_codes_append_cons before rest hc
          rw [translateFrom_of_not_isAscii out hget hb, Pattern.regexFrom_cons_of_not _ _ _ hc]
          rfl

/-- A bar in front anchors the pattern, at a host if a second one follows. -/
theorem translateFrom_bar
    (bytes : List Char) :
    translateFrom ('|' :: bytes) 0 false [] =
      if bytes.head? = some '|' then
        translateFrom ('|' :: bytes) 2 true Pattern.hostAnchor.toList
      else translateFrom ('|' :: bytes) 1 false ['^'] := by
  rw [translateFrom, List.length_cons, if_pos (Nat.succ_pos _), List.head?_eq_getElem?]
  simp [Pattern.isEscaped]

/-- **A walk that begins in front of a pattern translates the pattern.** -/
theorem translateFrom_zero_eq
    (s : List Char) :
    translateFrom (codes s) 0 false [] = some (Pattern.regexOf s) := by
  have hbar : Text.isAscii '|' := rfl
  unfold Pattern.regexOf
  split
  · next rest =>
      rw [Text.codes_cons_of_isAscii hbar, translateFrom_bar, ← Text.codes_cons_of_isAscii hbar,
        Text.codes_cons_of_isAscii hbar rest, List.head?_cons, if_pos rfl]
      exact translateFrom_eq ['|', '|'] rest true _ fun _ => List.cons_ne_nil _ _
  · next rest hsecond =>
      have hnext : (codes rest).head? ≠ some '|' := by
        rw [Ne, Text.head?_codes_eq_some_iff hbar, List.head?_eq_some_iff]
        rintro ⟨rest', rfl⟩
        exact hsecond rest' rfl
      rw [Text.codes_cons_of_isAscii hbar, translateFrom_bar, if_neg hnext,
        ← Text.codes_cons_of_isAscii hbar]
      exact translateFrom_eq ['|'] rest false _ fun _ => List.cons_ne_nil _ _
  · next hfirst hsecond =>
      have hwalk := translateFrom_eq [] s false [] fun hhead => by
        obtain ⟨rest, rfl⟩ := List.head?_eq_some_iff.mp hhead
        exact absurd rfl (hsecond rest)
      refine hwalk.trans ?_
      rw [Text.byteLength]
      cases Pattern.regexFrom 0 false s <;> rfl

theorem toRegex_eq
    (pattern : String) :
    toRegex pattern = some (Pattern.toRegex pattern) := by
  rw [toRegex, Pattern.toRegex, translateFrom_zero_eq]
  split <;> rfl

theorem compile_eq
    (pattern : String) :
    compile pattern = some (Pattern.compile pattern) := by
  rw [compile, literalRegex?_eq, Pattern.compile, Option.bind_eq_bind, Option.bind_some]
  cases Pattern.literalRegex? pattern with
  | some body => rfl
  | none => exact toRegex_eq pattern

/-! ## Dialect -/

/-- Checks a regex source from byte `pos` on. -/
def checkFrom (bytes : List Char) (pos : Nat) (st : Regex.Scan) :
    Option (Except Regex.DialectError Unit) :=
  if pos < bytes.length then do
    let b ← bytes[pos]?
    if ¬ Text.isAscii b then return .error (.nonAscii pos)
    else if b = '\\' then
      match bytes[pos + 1]? with
      | none => return .error (.incompleteEscape pos)
      | some next =>
          if Regex.isEscapable next then
            checkFrom bytes (pos + 2) { st with quantifiable := true }
          else return .error (.unsupportedEscape pos)
    else
      match st.step pos (decide (bytes.length ≤ pos + 1)) b with
      | .ok st => checkFrom bytes (pos + 1) st
      | .error e => return .error e
  else
    return if st.stack.isEmpty then .ok () else .error (.unbalancedBrackets bytes.length)
termination_by bytes.length - pos

/-- Checks a regex source against the dialect. -/
def checkRegex (source : String) : Option (Except Regex.DialectError Unit) :=
  checkFrom (codes source.toList) 0 { stack := [], quantifiable := false }

theorem checkFrom_of_getElem?
    {bytes : List Char}
    {pos : Nat}
    {st : Regex.Scan}
    {b : Char}
    (hget : bytes[pos]? = some b) :
    checkFrom bytes pos st =
      if ¬ Text.isAscii b then some (.error (.nonAscii pos))
      else if b = '\\' then
        match bytes[pos + 1]? with
        | none => some (.error (.incompleteEscape pos))
        | some next =>
            if Regex.isEscapable next then
              checkFrom bytes (pos + 2) { st with quantifiable := true }
            else some (.error (.unsupportedEscape pos))
      else
        match st.step pos (decide (bytes.length ≤ pos + 1)) b with
        | .ok st => checkFrom bytes (pos + 1) st
        | .error e => some (.error e) := by
  obtain ⟨hpos, -⟩ := List.getElem?_eq_some_iff.mp hget
  rw [checkFrom, if_pos hpos, hget]
  rfl

/-- **A walk that stands between two characters checks the rest of the source.** -/
theorem checkFrom_eq
    (before : List Char)
    {rest : List Char}
    {pos : Nat}
    (hpos : Text.byteLength before = pos)
    (st : Regex.Scan) :
    checkFrom (codes (before ++ rest)) pos st = some (Regex.checkFrom pos st rest) := by
  fun_induction Regex.checkFrom pos st rest generalizing before with
  | case1 pos st hstack =>
      rw [checkFrom, Text.length_codes, List.append_nil, hpos, if_neg (Nat.lt_irrefl _), if_pos hstack]
      rfl
  | case2 pos st hstack =>
      rw [checkFrom, Text.length_codes, List.append_nil, hpos, if_neg (Nat.lt_irrefl _), if_neg hstack]
      rfl
  | case3 pos st c rest hc =>
      obtain ⟨b, hget, hb⟩ :=
        exists_getElem?_codes_append_cons before rest (Bool.eq_false_iff.mpr hc)
      rw [hpos] at hget
      rw [checkFrom_of_getElem? hget, if_pos (Bool.eq_false_iff.mp hb)]
  | case4 pos st hc =>
      have hget := getElem?_codes_append_cons before [] (c := '\\') rfl
      have hnext := getElem?_codes_append_cons_succ before [] (c := '\\') rfl
      rw [hpos] at hget hnext
      rw [checkFrom_of_getElem? hget, if_neg hc, if_pos rfl, hnext]
      rfl
  | case5 pos st e rest he hc ih =>
      have hescape := Regex.isAscii_of_isEscapable he
      have hget := getElem?_codes_append_cons before (e :: rest) (c := '\\') rfl
      have hnext := getElem?_codes_append_cons_succ before (e :: rest) (c := '\\') rfl
      have hrest := ih (before ++ ['\\', e]) <| by
        rw [Text.byteLength_append, Text.byteLength, Text.byteLength, Text.byteLength,
          Text.utf8Size_of_isAscii hescape, hpos]
        rfl
      rw [hpos] at hget hnext
      rw [List.append_assoc, List.cons_append, List.cons_append, List.nil_append] at hrest
      rw [checkFrom_of_getElem? hget, if_neg hc, if_pos rfl, hnext,
        Text.codes_cons_of_isAscii hescape, List.head?_cons]
      dsimp only
      rw [if_pos he, hrest]
  | case6 pos st e rest he hc =>
      have hget := getElem?_codes_append_cons before (e :: rest) (c := '\\') rfl
      have hnext := getElem?_codes_append_cons_succ before (e :: rest) (c := '\\') rfl
      obtain ⟨b, hhead, hb⟩ := Text.exists_head?_codes
        (Text.ignoresForeign_of_isAscii fun _ => Regex.isAscii_of_isEscapable) e rest
      rw [hpos] at hget hnext
      rw [checkFrom_of_getElem? hget, if_neg hc, if_pos rfl, hnext, hhead]
      dsimp only
      rw [hb, if_neg he]
  | case7 pos st c rest hc hslash st' hstep ih =>
      rw [not_not] at hc
      have hget := getElem?_codes_append_cons before rest hc
      have hrest := ih (before ++ [c]) ((Text.byteLength_concat before hc).trans (by rw [hpos]))
      rw [hpos] at hget
      rw [List.append_assoc, List.singleton_append] at hrest
      rw [checkFrom_of_getElem? hget, if_neg (not_not.mpr hc), if_neg hslash,
        isLast_iff before rest hc hpos, hstep]
      exact hrest
  | case8 pos st c rest hc hslash e hstep =>
      rw [not_not] at hc
      have hget := getElem?_codes_append_cons before rest hc
      rw [hpos] at hget
      rw [checkFrom_of_getElem? hget, if_neg (not_not.mpr hc), if_neg hslash,
        isLast_iff before rest hc hpos, hstep]

theorem checkRegex_eq
    (source : String) :
    checkRegex source = some (Regex.check source) :=
  checkFrom_eq [] rfl _

end Checked
end FilterCompiler
