import FilterCompiler.Pattern.Basic
import FilterCompiler.Proofs.Regex.Meaning

/-!
# What a URL pattern matches

A pattern is cut into the signs that anchor it at the start, its body, and the
`|` that anchors it at the end.  Each character of the body is a piece with a
meaning of its own; for `^` the meaning depends on what stands before and
after it.

`toRegex` writes the pieces one by one.  Its flag says whether a character is
still in the host of a `||` pattern, and equals `staysInHost` of the characters
before it; with this invariant the induction over the body gives a tree whose
text is what was written and whose language is that of the pieces
(`regexFrom_body`).  The main result is `matches_toRegex_iff`.
-/

namespace FilterCompiler
namespace Pattern

open Computability

/-! ## The parts of a pattern -/

/-- How a pattern is anchored at the start. -/
inductive Lead where
  | none
  | start
  | host
deriving DecidableEq, Repr

/-- The parts of a pattern. -/
structure Parts where
  lead : Lead
  body : List Char
  /-- The pattern is anchored at the end. -/
  isEnded : Bool
deriving DecidableEq, Repr

/-- The parts of a pattern whose lead has been read. -/
def Parts.ofRest (lead : Lead) (rest : List Char) : Parts :=
  if rest.getLast? = some '|' then
    { lead, body := rest.dropLast, isEnded := true }
  else { lead, body := rest, isEnded := false }

/-- The parts of a pattern. -/
def Parts.ofPattern : List Char → Parts
  | '|' :: '|' :: rest => ofRest .host rest
  | '|' :: rest => ofRest .start rest
  | rest => ofRest .none rest

/-! ## The pieces of a body -/

/-- What a character of a body stands for. -/
inductive Piece where
  | wildcard
  /-- A `^` right after the host of a `||` pattern. -/
  | hostEnd
  | separator
  /-- A `^` that is the last character of the pattern. -/
  | finalSeparator
  | literal (c : Char)
deriving DecidableEq, Repr

/-- After this character the host of a `||` pattern has been left. -/
def leavesHost (c : Char) : Bool :=
  c ∈ ['+', '?', '$', '{', '}', '(', ')', '[', ']', '/', '\\', '*', ':']

/-- After these characters the host of a `||` pattern has not ended. -/
def staysInHost (isHost : Bool) (before : List Char) : Bool :=
  isHost && before.all fun d => d != '^' && !leavesHost d

/-- The piece of a character: `inHost` says that the host of a `||` pattern has
not ended before it, and `isLast` that it is the last one of the pattern. -/
def Piece.ofChar (inHost isLast : Bool) (c : Char) : Piece :=
  if c = '*' then .wildcard
  else if c = '^' then
    if inHost then .hostEnd
    else if isLast then .finalSeparator
    else .separator
  else .literal c

/-- The pieces of the rest of a body, with what stands before it. -/
def piecesFrom (isHost isEnded : Bool) (before : List Char) :
    List Char → List Piece
  | [] => []
  | c :: after =>
      .ofChar (staysInHost isHost before) (after.isEmpty && !isEnded) c ::
        piecesFrom isHost isEnded (before ++ [c]) after

/-- The pieces of a body. -/
def Parts.pieces (parts : Parts) : List Piece :=
  piecesFrom (parts.lead == .host) parts.isEnded [] parts.body

/-! ## Matching -/

/-- What a piece matches. -/
def Piece.Matches : Piece → List Char → Prop
  | wildcard, y => '\n' ∉ y
  | hostEnd, y => y = ['/'] ∨ y = [':']
  | separator, y => ∃ c ∈ ['/', ':', '&', '?'], y = [c]
  | finalSeparator, y => y = [] ∨ ∃ c ∈ ['/', ':', '&', '?'], y = [c]
  | literal c, y => y = [c]

/-- The text is a match of the first piece, then one of the second, and so on. -/
def PiecesMatch : List Piece → List Char → Prop
  | [], y => y = []
  | p :: pieces, y =>
      ∃ y₁ y₂, y = y₁ ++ y₂ ∧ p.Matches y₁ ∧ PiecesMatch pieces y₂

/-- A scheme with its slashes and perhaps some labels of a host. -/
def IsHostLead (x : List Char) : Prop :=
  ∃ scheme slashes labels,
    x = scheme ++ ':' :: (slashes ++ labels) ∧
    (scheme ≠ [] ∧ ':' ∉ scheme) ∧
    (2 ≤ slashes.length ∧ ∀ c ∈ slashes, c = '/') ∧
    (labels = [] ∨
      ∃ label, labels = label ++ ['.'] ∧ label ≠ [] ∧ ':' ∉ label ∧ '/' ∉ label)

/-- What may stand in front of the match of a body. -/
def Lead.Allows : Lead → List Char → Prop
  | none, _ => True
  | start, x => x = []
  | host, x => IsHostLead x

/-- The parts match the text. -/
def Parts.Matches (parts : Parts) (text : List Char) : Prop :=
  ∃ x y z, text = x ++ y ++ z ∧ parts.lead.Allows x ∧
    PiecesMatch parts.pieces y ∧ (parts.isEnded = true → z = [])

/-- The pattern matches the URL. -/
def Matches (pattern url : String) : Prop :=
  pattern ∈ ["", "*", "|", "||"] ∨
    (Parts.ofPattern pattern.toList).Matches url.toList

/-! ## Writing one character -/

/-- What is written for a character; `inHost` says that the host of a `||`
pattern has not ended and `isLast` that nothing follows. -/
def written (inHost : Bool) (c : Char) (isLast : Bool) : List Char :=
  if c = '.' ∨ isEscaped c then ['\\', c]
  else if c = '|' then (if isLast then ['$'] else ['\\', '|'])
  else if c = '^' then
    (if inHost then hostSeparator else if isLast then endSeparator else separator).toList
  else if c = '*' then matchAll.toList
  else [c]

/-- The host is left at the characters that are escaped, a star and a colon. -/
theorem leavesHost_eq (c : Char) :
    leavesHost c = (isEscaped c || c == '*' || c == ':') := by
  rw [Bool.eq_iff_iff]
  simp [leavesHost, isEscaped, or_assoc]

/-- An ASCII character is written and the rest follows. -/
theorem regexFrom_cons
    (pos : Nat)
    (inHost : Bool)
    {c : Char}
    (rest : List Char)
    (hc : Text.isAscii c = true) :
    regexFrom pos inHost (c :: rest) =
      emit (written inHost c rest.isEmpty)
        (regexFrom (pos + 1) (inHost && (c != '^' && !leavesHost c)) rest) := by
  by_cases hdot : c = '.'
  · subst hdot
    simp [regexFrom, written, leavesHost]
  by_cases hescaped : isEscaped c = true
  · simp [regexFrom, written, leavesHost_eq, hdot, hescaped]
  by_cases hbar : c = '|'
  · subst hbar
    simp [regexFrom, written, leavesHost, isEscaped]
  by_cases hcaret : c = '^'
  · subst hcaret
    cases inHost <;> cases rest <;>
      simp [regexFrom, written, isEscaped]
  by_cases hstar : c = '*'
  · subst hstar
    simp [regexFrom, written, leavesHost, isEscaped]
  have hflag : (c != '^' && !leavesHost c) = decide (c ≠ ':') := by
    rw [Bool.eq_iff_iff]
    simp [leavesHost_eq, hescaped, hcaret, hstar]
  simp [regexFrom, written, hdot, hescaped, hbar, hcaret, hstar, hc, hflag]

/-! ## The trees of pieces -/

section Trees

open Regex (Items ClassBody oneOf repeated isInClass isMatchOf)

/-- The inside of the class that `^` stands for. -/
def separatorBody : ClassBody :=
  .plain '/' rfl (.plain ':' rfl (.plain '&' rfl (.plain '?' rfl .nil)))

/-- The inside of the class that `^` stands for right after a host. -/
def hostSeparatorBody : ClassBody :=
  .plain '/' rfl (.plain ':' rfl .nil)

theorem isInClass_separatorBody (d : Char) :
    isInClass d separatorBody.members = true ↔ d ∈ ['/', ':', '&', '?'] := by
  simp [separatorBody, ClassBody.members, isInClass, Regex.isListed, @eq_comm _ d]

theorem isInClass_hostSeparatorBody (d : Char) :
    isInClass d hostSeparatorBody.members = true ↔ d = '/' ∨ d = ':' := by
  simp [hostSeparatorBody, ClassBody.members, isInClass, Regex.isListed, @eq_comm _ d]

/-- What is written for a piece in front of some items is the text of a tree,
and the tree matches the piece and then the items. -/
def Writes (w : List Char) (p : Piece) : Prop :=
  ∀ rest : Items, ∃ items : Items, items.text = w ++ rest.text ∧
    ∀ y, y ∈ items.lang ↔
      ∃ y₁ y₂, y = y₁ ++ y₂ ∧ p.Matches y₁ ∧ y₂ ∈ rest.lang

/-- The items of an atom and the rest match a piece and the rest. -/
theorem mem_mul_of_piece
    {atom rest : Language Char}
    {p : Piece}
    (h : ∀ y, y ∈ atom ↔ p.Matches y)
    (y : List Char) :
    y ∈ atom * rest ↔
      ∃ y₁ y₂, y = y₁ ++ y₂ ∧ p.Matches y₁ ∧ y₂ ∈ rest := by
  rw [Language.mem_mul]
  constructor
  · rintro ⟨y₁, hy₁, y₂, hy₂, rfl⟩
    exact ⟨y₁, y₂, rfl, (h y₁).mp hy₁, hy₂⟩
  · rintro ⟨y₁, y₂, rfl, hy₁, hy₂⟩
    exact ⟨y₁, (h y₁).mpr hy₁, y₂, hy₂, rfl⟩

theorem writes_wildcard : Writes matchAll.toList .wildcard := by
  intro rest
  refine ⟨.plain '.' rfl (some .star) rest, rfl, mem_mul_of_piece fun y => ?_⟩
  rw [repeated, Regex.mem_kstar_oneOf]
  simp only [isMatchOf, Piece.Matches, if_true, bne_iff_ne]
  constructor
  · intro h hmem
    exact h '\n' hmem rfl
  · rintro h c hc rfl
    exact h hc

theorem writes_hostEnd : Writes hostSeparator.toList .hostEnd := by
  intro rest
  refine ⟨.charClass hostSeparatorBody none rest, rfl,
    mem_mul_of_piece fun y => ?_⟩
  simp [repeated, Regex.mem_oneOf, isInClass_hostSeparatorBody, Piece.Matches,
    or_and_right, exists_or]

theorem writes_separator : Writes separator.toList .separator := by
  intro rest
  refine ⟨.charClass separatorBody none rest, rfl,
    mem_mul_of_piece fun y => ?_⟩
  rw [repeated, Regex.mem_oneOf]
  simp only [isInClass_separatorBody, Piece.Matches]

theorem writes_finalSeparator : Writes endSeparator.toList .finalSeparator := by
  intro rest
  refine ⟨.charClass separatorBody (some .opt) rest, rfl,
    mem_mul_of_piece fun y => ?_⟩
  rw [repeated, Language.mem_add, Language.mem_one, Regex.mem_oneOf]
  simp only [isInClass_separatorBody, Piece.Matches]

theorem writes_escaped
    {c : Char}
    (hc : Regex.isEscapable c = true) :
    Writes ['\\', c] (.literal c) := by
  intro rest
  refine ⟨.escape c hc none rest, rfl, mem_mul_of_piece fun y => ?_⟩
  exact Regex.mem_oneOf_eq

theorem writes_plain
    {c : Char}
    (hc : Regex.isPlain c = true)
    (hdot : c ≠ '.') :
    Writes [c] (.literal c) := by
  intro rest
  refine ⟨.plain c hc none rest, rfl, mem_mul_of_piece fun y => ?_⟩
  have htest : isMatchOf c = (· == c) := by
    funext d
    simp [isMatchOf, hdot]
  rw [repeated, htest]
  exact Regex.mem_oneOf_eq

/-- The characters that are escaped may follow a backslash. -/
theorem isEscapable_of_isEscaped
    {c : Char}
    (hc : c = '.' ∨ isEscaped c = true) :
    Regex.isEscapable c = true := by
  simp only [isEscaped, decide_eq_true_eq, List.mem_cons, List.not_mem_nil,
    or_false] at hc
  rcases hc with rfl | rfl | rfl | rfl | rfl | rfl | rfl | rfl | rfl | rfl | rfl | rfl
  all_goals decide

/-- **Every character of a body is written as its piece.** -/
theorem writes_written
    (inHost : Bool)
    {isLast : Bool}
    {c : Char}
    (hc : Text.isAscii c = true)
    (hbar : c = '|' → isLast = false) :
    Writes (written inHost c isLast) (.ofChar inHost isLast c) := by
  by_cases hstar : c = '*'
  · subst hstar
    exact writes_wildcard
  by_cases hcaret : c = '^'
  · subst hcaret
    cases inHost with
    | true => exact writes_hostEnd
    | false =>
        cases isLast with
        | true => exact writes_finalSeparator
        | false => exact writes_separator
  have hpiece : Piece.ofChar inHost isLast c = .literal c := by
    simp [Piece.ofChar, hstar, hcaret]
  rw [hpiece]
  by_cases hescaped : c = '.' ∨ isEscaped c = true
  · have hw : written inHost c isLast = ['\\', c] := by
      simp [written, hescaped]
    rw [hw]
    exact writes_escaped (isEscapable_of_isEscaped hescaped)
  by_cases hc' : c = '|'
  · subst hc'
    rw [hbar rfl]
    exact writes_escaped (by decide)
  · have hw : written inHost c isLast = [c] := by
      simp [written, hescaped, hc', hcaret, hstar]
    rw [hw]
    obtain ⟨hdot, hescaped⟩ := not_or.mp hescaped
    refine writes_plain ?_ hdot
    simp [isEscaped] at hescaped
    simp [Regex.isPlain, Regex.signs, hc, hescaped, hc', hcaret, hstar]

end Trees

/-! ## The tree of a body -/

/-- The flag of the translation after one more character. -/
theorem staysInHost_append
    (isHost : Bool)
    (before : List Char)
    (c : Char) :
    staysInHost isHost (before ++ [c]) =
      (staysInHost isHost before && (c != '^' && !leavesHost c)) := by
  simp [staysInHost, Bool.and_assoc]

/-- **The translation of a body is a tree with the language of its pieces.** -/
theorem regexFrom_body
    (isHost isEnded : Bool)
    (before body : List Char)
    (pos : Nat)
    (hascii : ∀ c ∈ body, Text.isAscii c = true)
    (hlast : isEnded = false → body.getLast? ≠ some '|') :
    ∃ items : Regex.Items,
      regexFrom pos (staysInHost isHost before)
          (body ++ Regex.optional '|' isEnded) =
        .ok (items.text ++ Regex.optional '$' isEnded) ∧
      ∀ y, y ∈ items.lang ↔
        PiecesMatch (piecesFrom isHost isEnded before body) y := by
  induction body generalizing before pos with
  | nil =>
      refine ⟨.nil, ?_, fun y => Language.mem_one y⟩
      cases isEnded <;>
        simp [regexFrom, Regex.optional, Regex.Items.text, isEscaped, emit]
  | cons c after ih =>
      rw [List.forall_mem_cons] at hascii
      obtain ⟨rest, hrest, hlang⟩ := ih (before ++ [c]) (pos + 1) hascii.2 (by
        intro hended hafter
        apply hlast hended
        rw [List.getLast?_cons, hafter]
        rfl)
      have hempty :
          (after ++ Regex.optional '|' isEnded).isEmpty =
            (after.isEmpty && !isEnded) := by
        cases after <;> cases isEnded <;> rfl
      have hbar : c = '|' → (after.isEmpty && !isEnded) = false := by
        rintro rfl
        cases after with
        | nil =>
            cases isEnded with
            | false => simp at hlast
            | true => rfl
        | cons d after => rfl
      obtain ⟨items, htext, hitems⟩ :=
        writes_written (staysInHost isHost before) hascii.1 hbar rest
      refine ⟨items, ?_, ?_⟩
      · rw [List.cons_append, regexFrom_cons _ _ _ hascii.1,
          ← staysInHost_append, hrest, hempty, htext]
        simp [emit]
      · intro y
        rw [hitems, piecesFrom, PiecesMatch]
        simp only [hlang]

/-! ## The tree of a pattern -/

section Host

open Regex (Items ClassBody oneOf repeated isInClass isMatchOf)

/-- The inside of the class of the characters of a scheme. -/
def schemeBody : ClassBody :=
  .plain '^' rfl (.plain ':' rfl .nil)

/-- The inside of the class of the characters of a label. -/
def labelBody : ClassBody :=
  .plain '^' rfl (.plain ':' rfl (.plain '/' rfl .nil))

/-- One or more characters of a label and a dot. -/
def labelItems : Items :=
  .charClass labelBody (some .plus) (.escape '.' rfl none .nil)

/-- What stands for `||`, and some items. -/
def hostItems (rest : Items) : Items :=
  .charClass schemeBody (some .plus)
    (.plain ':' rfl none
      (.plain '/' rfl none
        (.plain '/' rfl (some .plus)
          (.group labelItems (some .opt) rest))))

/-- The anchor at the start and the items in front of a host are what is
written for `||`. -/
theorem text_hostItems
    (rest : Items)
    (isEnded : Bool) :
    Regex.Source.text ⟨true, hostItems rest, isEnded⟩ =
      hostAnchor.toList ++ (rest.text ++ Regex.optional '$' isEnded) :=
  rfl

theorem isInClass_schemeBody (d : Char) :
    isInClass d schemeBody.members = true ↔ d ≠ ':' := by
  simp [schemeBody, ClassBody.members, isInClass, Regex.isListed, @eq_comm _ d]

theorem isInClass_labelBody (d : Char) :
    isInClass d labelBody.members = true ↔ d ≠ ':' ∧ d ≠ '/' := by
  simp [labelBody, ClassBody.members, isInClass, Regex.isListed, @eq_comm _ d]

/-- A scheme has at least one character and no colon. -/
theorem mem_scheme (y : List Char) :
    y ∈ repeated (some .plus) (oneOf (isInClass · schemeBody.members)) ↔
      y ≠ [] ∧ ':' ∉ y := by
  rw [repeated, Regex.mem_plus_oneOf]
  simp only [isInClass_schemeBody]
  refine and_congr_right fun _ => ?_
  exact ⟨fun h hc => h ':' hc rfl, fun h c hc he => h (he ▸ hc)⟩

/-- The slashes after a scheme, the first one apart. -/
theorem mem_slashes (y : List Char) :
    y ∈ repeated (some .plus) (oneOf (isMatchOf '/')) ↔
      y ≠ [] ∧ ∀ c ∈ y, c = '/' := by
  rw [repeated, Regex.mem_plus_oneOf]
  simp [isMatchOf]

/-- A plain character other than a dot matches itself. -/
theorem mem_isMatchOf
    {c : Char}
    (hc : c ≠ '.')
    (y : List Char) :
    y ∈ repeated none (oneOf (isMatchOf c)) ↔ y = [c] := by
  have htest : isMatchOf c = (· == c) := by
    funext d
    simp [isMatchOf, hc]
  rw [repeated, htest, Regex.mem_oneOf_eq]

/-- The labels in front of a host end with a dot, if there are any. -/
theorem mem_labels (y : List Char) :
    y ∈ repeated (some .opt) labelItems.lang ↔
      y = [] ∨
        ∃ label, y = label ++ ['.'] ∧ label ≠ [] ∧ ':' ∉ label ∧ '/' ∉ label := by
  have hlang :
      labelItems.lang =
        repeated (some .plus) (oneOf (isInClass · labelBody.members)) *
          oneOf (· == '.') := by
    simp [labelItems, Items.lang, repeated]
  have hlabel :
      ∀ label : List Char,
        label ∈ repeated (some .plus) (oneOf (isInClass · labelBody.members)) ↔
          label ≠ [] ∧ ':' ∉ label ∧ '/' ∉ label := by
    intro label
    rw [repeated, Regex.mem_plus_oneOf]
    simp only [isInClass_labelBody]
    refine and_congr_right fun _ => ⟨fun h => ?_, ?_⟩
    · exact ⟨fun hc => (h ':' hc).1 rfl, fun hc => (h '/' hc).2 rfl⟩
    · rintro ⟨hcolon, hslash⟩ c hc
      exact ⟨fun he => hcolon (he ▸ hc), fun he => hslash (he ▸ hc)⟩
  show y ∈ 1 + labelItems.lang ↔ _
  rw [Language.mem_add, Language.mem_one, hlang, Language.mem_mul]
  refine or_congr_right ?_
  constructor
  · rintro ⟨label, hmem, _, hdot, rfl⟩
    rw [Regex.mem_oneOf_eq] at hdot
    exact ⟨label, by rw [hdot], (hlabel label).mp hmem⟩
  · rintro ⟨label, rfl, hmem⟩
    exact ⟨label, (hlabel label).mpr hmem, ['.'], Regex.mem_oneOf_eq.mpr rfl, rfl⟩

/-- **What stands for `||` matches a scheme, slashes and labels.** -/
theorem mem_hostItems
    (rest : Items)
    (y : List Char) :
    y ∈ (hostItems rest).lang ↔
      ∃ x z, y = x ++ z ∧ IsHostLead x ∧ z ∈ rest.lang := by
  simp only [hostItems, Items.lang, Language.mem_mul, mem_scheme, mem_slashes,
    mem_labels, mem_isMatchOf (show ':' ≠ '.' by decide),
    mem_isMatchOf (show '/' ≠ '.' by decide)]
  constructor
  · rintro ⟨scheme, hs, _, ⟨_, rfl, _, ⟨_, rfl, _,
      ⟨slashes, hsl, _, ⟨labels, hl, z, hz, rfl⟩, rfl⟩, rfl⟩, rfl⟩, rfl⟩
    refine ⟨scheme ++ ':' :: ('/' :: slashes ++ labels), z, by simp, ?_, hz⟩
    refine ⟨scheme, '/' :: slashes, labels, rfl, hs, ⟨?_, ?_⟩, hl⟩
    · have hpos := List.length_pos_iff.mpr hsl.1
      simp
      omega
    · simpa using hsl.2
  · rintro ⟨_, z, rfl, ⟨scheme, slashes, labels, rfl, hs, ⟨hlen, hsl⟩, hl⟩, hz⟩
    obtain _ | ⟨a, _ | ⟨b, slashes⟩⟩ := slashes
    · simp at hlen
    · simp at hlen
    · rw [List.forall_mem_cons] at hsl
      obtain ⟨rfl, hsl⟩ := hsl
      refine ⟨scheme, hs, _, ⟨[':'], rfl, _, ⟨['/'], rfl, _,
        ⟨b :: slashes, ⟨by simp, hsl⟩, _, ⟨labels, hl, z, hz, rfl⟩, rfl⟩,
        rfl⟩, rfl⟩, ?_⟩
      simp

end Host

/-- Every list of characters after a lead is a body and the sign of an end. -/
theorem Parts.body_append
    (lead : Lead)
    (rest : List Char) :
    (ofRest lead rest).body ++ Regex.optional '|' (ofRest lead rest).isEnded =
      rest := by
  unfold ofRest
  split
  · next h => exact List.dropLast_append_getLast? '|' h
  · simp [Regex.optional]

@[simp] theorem Parts.lead_ofRest
    (lead : Lead)
    (rest : List Char) :
    (ofRest lead rest).lead = lead := by
  unfold ofRest
  split <;> rfl

/-- A body without the sign of an end does not end with it. -/
theorem Parts.getLast?_body
    (lead : Lead)
    (rest : List Char)
    (h : (ofRest lead rest).isEnded = false) :
    (ofRest lead rest).body.getLast? ≠ some '|' := by
  by_cases hlast : rest.getLast? = some '|'
  · simp [ofRest, hlast] at h
  · simp [ofRest, hlast]

/-- The rest of a pattern after its lead is written as a tree with the
language of the pieces of its body. -/
theorem regexFrom_rest
    (lead : Lead)
    (rest : List Char)
    (pos : Nat)
    (hascii : ∀ c ∈ rest, Text.isAscii c = true) :
    ∃ items : Regex.Items,
      regexFrom pos (lead == .host) rest =
        .ok (items.text ++
          Regex.optional '$' (Parts.ofRest lead rest).isEnded) ∧
      ∀ y, y ∈ items.lang ↔ PiecesMatch (Parts.ofRest lead rest).pieces y := by
  have hbody := Parts.body_append lead rest
  obtain ⟨items, htext, hlang⟩ :=
    regexFrom_body (lead == .host) (Parts.ofRest lead rest).isEnded []
      (Parts.ofRest lead rest).body pos
      (fun c hc => hascii c (by rw [← hbody]; exact List.mem_append_left _ hc))
      (Parts.getLast?_body lead rest)
  refine ⟨items, ?_, ?_⟩
  · rw [hbody] at htext
    simpa [staysInHost] using htext
  · rw [Parts.pieces, Parts.lead_ofRest]
    exact hlang

/-- **The translation of a pattern is a tree with its meaning.** -/
theorem exists_source
    (s : List Char)
    (hascii : ∀ c ∈ s, Text.isAscii c = true) :
    ∃ t : Regex.Source,
      regexOf s = .ok t.text ∧
      ∀ text, t.Matches text ↔ (Parts.ofPattern s).Matches text := by
  unfold regexOf Parts.ofPattern
  split
  · next rest =>
    obtain ⟨items, htext, hlang⟩ := regexFrom_rest .host rest 2
      (fun c hc => hascii c (by simp [hc]))
    refine ⟨⟨true, hostItems items, (Parts.ofRest .host rest).isEnded⟩, ?_, ?_⟩
    · rw [text_hostItems, show true = (Lead.host == .host) from rfl, htext]
      rfl
    · intro text
      simp only [Regex.Source.Matches, Parts.Matches, mem_hostItems, hlang,
        Parts.lead_ofRest, Lead.Allows, true_implies]
      constructor
      · rintro ⟨x, _, z, rfl, ⟨host, y, rfl, hhost, hy⟩, rfl, hz⟩
        exact ⟨host, y, z, by simp, hhost, hy, hz⟩
      · rintro ⟨x, y, z, rfl, hhost, hy, hz⟩
        exact ⟨[], x ++ y, z, by simp, ⟨x, y, rfl, hhost, hy⟩, rfl, hz⟩
  · next rest _ =>
    obtain ⟨items, htext, hlang⟩ := regexFrom_rest .start rest 1
      (fun c hc => hascii c (by simp [hc]))
    refine ⟨⟨true, items, (Parts.ofRest .start rest).isEnded⟩, ?_, ?_⟩
    · rw [show false = (Lead.start == .host) from rfl, htext]
      simp [emit, Regex.Source.text, Regex.optional]
    · intro text
      simp only [Regex.Source.Matches, Parts.Matches, hlang, Parts.lead_ofRest,
        Lead.Allows, true_implies]
      constructor
      · rintro ⟨x, y, z, rfl, hy, hx, hz⟩
        exact ⟨x, y, z, rfl, hx, hy, hz⟩
      · rintro ⟨x, y, z, rfl, hx, hy, hz⟩
        exact ⟨x, y, z, rfl, hy, hx, hz⟩
  · obtain ⟨items, htext, hlang⟩ := regexFrom_rest .none s 0 hascii
    refine ⟨⟨false, items, (Parts.ofRest .none s).isEnded⟩, ?_, ?_⟩
    · rw [show false = (Lead.none == .host) from rfl, htext]
      simp [Regex.Source.text, Regex.optional]
    · intro text
      simp only [Regex.Source.Matches, Parts.Matches, hlang, Parts.lead_ofRest,
        Lead.Allows]
      constructor
      · rintro ⟨x, y, z, rfl, hy, -, hz⟩
        exact ⟨x, y, z, rfl, trivial, hy, hz⟩
      · rintro ⟨x, y, z, rfl, -, hy, hz⟩
        exact ⟨x, y, z, rfl, hy, by simp, hz⟩

/-! ## The regex of a pattern -/

/-- The regex that every URL matches is in the dialect. -/
def anySource : Regex.Source :=
  { isAnchored := false
    items := .plain '.' rfl (some .star) .nil
    isEnded := false }

/-- It matches the empty part of every text. -/
theorem anySource_matches (text : List Char) : anySource.Matches text := by
  refine ⟨[], [], text, rfl, ?_, by simp, by simp [anySource]⟩
  exact Language.append_mem_mul (Language.nil_mem_kstar _) Language.nil_mem_one

/-- **An ASCII pattern has a regex, whose tree has the meaning of the
pattern.** -/
theorem exists_source_of_isAscii
    (pattern : String)
    (hascii : ∀ c ∈ pattern.toList, Text.isAscii c = true) :
    ∃ (regex : String) (t : Regex.Source),
      toRegex pattern = .ok regex ∧ t.text = regex.toList ∧
      ∀ url : String, t.Matches url.toList ↔ Matches pattern url := by
  by_cases hall : pattern = "" ∨ pattern = "*" ∨ pattern = "|" ∨ pattern = "||"
  · refine ⟨matchAll, anySource, by rw [toRegex, if_pos hall], rfl, ?_⟩
    intro url
    have hmatches : Matches pattern url := Or.inl (by simpa using hall)
    simp [hmatches, anySource_matches]
  · obtain ⟨t, htext, hmatches⟩ := exists_source pattern.toList hascii
    refine ⟨String.ofList t.text, t, ?_, by simp, ?_⟩
    · rw [toRegex, if_neg hall, htext]
      rfl
    · intro url
      rw [hmatches, Matches]
      simp [hall]

/-- **The regex of an ASCII pattern matches the URLs that the pattern
matches.** -/
theorem matches_toRegex_iff
    (pattern : String)
    (hascii : ∀ c ∈ pattern.toList, Text.isAscii c = true) :
    ∃ regex, toRegex pattern = .ok regex ∧
      ∀ url, Regex.Matches regex url ↔ Matches pattern url := by
  obtain ⟨regex, t, hregex, htext, hmatches⟩ :=
    exists_source_of_isAscii pattern hascii
  refine ⟨regex, hregex, fun url => ?_⟩
  rw [Regex.matches_iff_of_text htext, hmatches]

/-- The regex of a host with a path and a final separator. -/
theorem matches_toRegex_host :
    ∃ regex, toRegex "||example.com/ads^" = .ok regex ∧
      ∀ url, Regex.Matches regex url ↔ Matches "||example.com/ads^" url :=
  matches_toRegex_iff "||example.com/ads^" (List.all_eq_true.mp (by decide))

end Pattern
end FilterCompiler
