import FilterCompiler.Json.Value

/-!
# Writing and reading JSON

What is written is read back.  A text in quotes is read character by
character (`readText_escape`), a word is read up to the first character that
is not part of one (`readTokens_word`), and the tokens of a value bring the
reader from the place before it to the place after it (`run_tokens`).

A value is proper if its texts are there and its numbers are numbers; the
main result `parse?_chars` is about all proper values.
-/

namespace FilterCompiler
namespace Json

/-! ## Texts -/

theorem hexValue?_hexDigit
    {n : Nat}
    (hn : n < 16) :
    hexValue? (hexDigit n) = some n := by
  have h : ∀ n < 16, hexValue? (hexDigit n) = some n := by decide
  exact h n hn

/-- The digits of a control character are read back. -/
theorem unitOfHex?_hexDigit
    {c : Char}
    (hc : c.toNat < 32) :
    unitOfHex? '0' '0' (hexDigit (c.toNat / 16)) (hexDigit (c.toNat % 16)) =
      some (.char c) := by
  have hzero : hexValue? '0' = some 0 := by decide
  have hhigh : hexValue? (hexDigit (c.toNat / 16)) = some (c.toNat / 16) :=
    hexValue?_hexDigit (by omega)
  have hlow : hexValue? (hexDigit (c.toNat % 16)) = some (c.toNat % 16) :=
    hexValue?_hexDigit (by omega)
  have hvalue :
      ((0 * 16 + 0) * 16 + c.toNat / 16) * 16 + c.toNat % 16 = c.toNat := by
    omega
  have hhalf : ¬(0xD800 ≤ c.toNat ∧ c.toNat < 0xE000) := by omega
  simp only [unitOfHex?, hzero, hhigh, hlow, hvalue, if_neg hhalf,
    Char.ofNat_toNat]

/-- A character is read back from what is written for it. -/
theorem readText_escape
    (done : List TextUnit)
    (c : Char)
    (rest : List Char) :
    readText done (escape c ++ rest) = readText (.char c :: done) rest := by
  by_cases hshort : c ∈ ['"', '\\', '\n', '\r', '\t', '\x08', '\x0c']
  · simp only [List.mem_cons, List.not_mem_nil, or_false] at hshort
    rcases hshort with rfl | rfl | rfl | rfl | rfl | rfl | rfl
    all_goals simp [escape, readText, shortEscape?]
  have hslash : c ≠ '\\' := by
    rintro rfl
    simp at hshort
  have hescape :
      escape c =
        if c.toNat < 32 then
          ['\\', 'u', '0', '0', hexDigit (c.toNat / 16), hexDigit (c.toNat % 16)]
        else [c] := by
    simp only [List.mem_cons, List.not_mem_nil, or_false, not_or] at hshort
    simp [escape, hshort]
  rw [hescape]
  split
  · next hc =>
      simp only [List.cons_append, List.nil_append, readText,
        unitOfHex?_hexDigit hc]
  · next hc =>
      have hquote : c ≠ '"' := by
        rintro rfl
        simp at hshort
      simp [readText, hslash, hc]

/-- A text is read back up to the quote that closes it. -/
theorem readText_flatMap_escape
    (done : List TextUnit)
    (s rest : List Char) :
    readText done (s.flatMap escape ++ '"' :: rest) =
      some (done.reverse ++ s.map .char, rest) := by
  induction s generalizing done with
  | nil =>
      simp [readText]
  | cons c s ih =>
      rw [List.flatMap_cons, List.append_assoc, readText_escape, ih]
      simp

theorem joinUnitsFrom_map_char
    (done s : List Char) :
    joinUnitsFrom done (s.map .char) = some (done.reverse ++ s) := by
  induction s generalizing done with
  | nil =>
      simp [joinUnitsFrom]
  | cons c s ih =>
      simp [joinUnitsFrom, ih]

/-- Characters that are not halves join to themselves. -/
theorem joinUnits_map_char
    (s : List Char) :
    joinUnits (s.map .char) = some s := by
  simp [joinUnits, joinUnitsFrom_map_char]

/-- A text in quotes is read as one token. -/
theorem readTokens_quote
    (done : List Token)
    (s rest : List Char) :
    readTokens done (quote s ++ rest) =
      readTokens (.text (some s) :: done) rest := by
  have hread :
      readText [] (s.flatMap escape ++ '"' :: rest) = some (s.map .char, rest) := by
    rw [readText_flatMap_escape]
    rfl
  have hquote : quote s ++ rest = '"' :: (s.flatMap escape ++ '"' :: rest) := by
    simp [quote]
  rw [hquote, readTokens]
  simp only [isSpace, if_true]
  split
  · simp at *
  split
  · next h => rw [hread] at h; cases h
  · next h =>
      rw [hread] at h
      cases h
      rw [joinUnits_map_char]

/-! ## Words -/

theorem isWordChar_of_isDigit
    {c : Char}
    (hc : c.isDigit = true) :
    isWordChar c = true := by
  have hspace : isSpace c = false := by
    rw [Bool.eq_false_iff]
    intro h
    simp only [isSpace, Bool.or_eq_true, beq_iff_eq] at h
    rcases h with ((rfl | rfl) | rfl) | rfl
    all_goals simp at hc
  have hquote : (c != '"') = true := by
    rw [bne_iff_ne]
    rintro rfl
    simp at hc
  have hsign : Token.ofChar? c = none := by
    unfold Token.ofChar?
    split
    all_goals first
      | rfl
      | simp at hc
  simp [isWordChar, hspace, hquote, hsign]

/-- What is dropped in front is not empty and consists of digits. -/
theorem dropDigits?_eq_some
    {s rest : List Char}
    (h : dropDigits? s = some rest) :
    ∃ digits, s = digits ++ rest ∧ digits ≠ [] ∧
      ∀ c ∈ digits, isWordChar c = true := by
  cases s with
  | nil => simp [dropDigits?] at h
  | cons c s =>
      simp only [dropDigits?, Option.ite_none_right_eq_some,
        Option.some.injEq] at h
      obtain ⟨hc, rfl⟩ := h
      refine ⟨c :: s.takeWhile Char.isDigit, ?_, List.cons_ne_nil _ _, ?_⟩
      · rw [List.cons_append, List.takeWhile_append_dropWhile]
      · intro d hd
        apply isWordChar_of_isDigit
        rcases List.mem_cons.mp hd with rfl | hd
        · exact hc
        · exact List.all_eq_true.mp List.all_takeWhile d hd

theorem dropWhole?_eq_some
    {s rest : List Char}
    (h : dropWhole? s = some rest) :
    ∃ digits, s = digits ++ rest ∧ digits ≠ [] ∧
      ∀ c ∈ digits, isWordChar c = true := by
  unfold dropWhole? at h
  split at h
  · cases h
    exact ⟨['0'], rfl, List.cons_ne_nil _ _, List.forall_mem_singleton.mpr rfl⟩
  · exact dropDigits?_eq_some h

theorem all_isWordChar_of_isExponent
    {s : List Char}
    (h : isExponent s = true) :
    ∀ c ∈ s, isWordChar c = true := by
  cases s with
  | nil => simp
  | cons e s =>
      simp only [isExponent, Bool.and_eq_true, Bool.or_eq_true,
        beq_iff_eq] at h
      obtain ⟨he, h⟩ := h
      obtain ⟨digits, hdigits, -, hall⟩ := dropDigits?_eq_some h
      rw [List.append_nil] at hdigits
      rw [List.forall_mem_cons]
      constructor
      · rcases he with rfl | rfl
        all_goals decide
      · split at hdigits
        · rw [List.forall_mem_cons, hdigits]
          exact ⟨by decide, hall⟩
        · rw [List.forall_mem_cons, hdigits]
          exact ⟨by decide, hall⟩
        · rw [hdigits]
          exact hall

theorem all_isWordChar_of_isFraction
    {s : List Char}
    (h : isFraction s = true) :
    ∀ c ∈ s, isWordChar c = true := by
  unfold isFraction at h
  split at h
  · next s =>
      obtain ⟨rest, hrest, hexponent⟩ := (Option.any_eq_true _ _).mp h
      obtain ⟨digits, rfl, -, hall⟩ := dropDigits?_eq_some hrest
      rw [List.forall_mem_cons, List.forall_mem_append]
      exact ⟨by decide, hall, all_isWordChar_of_isExponent hexponent⟩
  · exact all_isWordChar_of_isExponent h

/-- A whole number and a fraction are no empty text. -/
theorem isWord_of_dropWhole?
    {s : List Char}
    (h : (dropWhole? s).any isFraction = true) :
    s ≠ [] ∧ ∀ c ∈ s, isWordChar c = true := by
  obtain ⟨rest, hrest, hfraction⟩ := (Option.any_eq_true _ _).mp h
  obtain ⟨digits, rfl, hdigits, hall⟩ := dropWhole?_eq_some hrest
  rw [List.forall_mem_append]
  exact ⟨List.append_ne_nil_of_left_ne_nil hdigits _, hall,
    all_isWordChar_of_isFraction hfraction⟩

theorem isWord_of_isNumber
    {s : List Char}
    (h : isNumber s = true) :
    s ≠ [] ∧ ∀ c ∈ s, isWordChar c = true := by
  unfold isNumber at h
  split at h
  · rw [List.forall_mem_cons]
    exact ⟨List.cons_ne_nil _ _, by decide, (isWord_of_dropWhole? h).2⟩
  · exact isWord_of_dropWhole? h

/-- No word with a meaning of its own is a number. -/
theorem ofWord?_number
    {digits : List Char}
    (h : isNumber digits = true) :
    Token.ofWord? digits = some (.number digits) := by
  have hne : ∀ word : List Char, isNumber word = false → digits ≠ word := by
    rintro word hword rfl
    rw [h] at hword
    cases hword
  unfold Token.ofWord?
  rw [if_neg (hne _ (by decide)), if_neg (hne _ (by decide)),
    if_neg (hne _ (by decide)), if_pos h]

/-- The text does not go on a word. -/
def EndsWord (s : List Char) : Prop :=
  ∀ c ∈ s.head?, isWordChar c = false

theorem takeWhile_isWordChar
    {s : List Char}
    (h : EndsWord s) :
    s.takeWhile isWordChar = [] := by
  cases s with
  | nil => rfl
  | cons c s => simp [h c rfl]

theorem dropWhile_isWordChar
    {s : List Char}
    (h : EndsWord s) :
    s.dropWhile isWordChar = s := by
  cases s with
  | nil => rfl
  | cons c s => simp [h c rfl]

/-- A word is read as one token if something else follows it. -/
theorem readTokens_word
    {word rest : List Char}
    {token : Token}
    (done : List Token)
    (hne : word ≠ [])
    (hall : ∀ c ∈ word, isWordChar c = true)
    (htoken : Token.ofWord? word = some token)
    (hrest : EndsWord rest) :
    readTokens done (word ++ rest) = readTokens (token :: done) rest := by
  obtain ⟨c, word, rfl⟩ := List.exists_cons_of_ne_nil hne
  rw [List.forall_mem_cons] at hall
  obtain ⟨hc, hall⟩ := hall
  simp only [isWordChar, Bool.and_eq_true, Bool.not_eq_true', bne_iff_ne,
    Option.isNone_iff_eq_none] at hc
  obtain ⟨⟨hspace, hquote⟩, hsign⟩ := hc
  rw [List.cons_append, readTokens]
  simp only [hspace, hquote, hsign, if_false, Bool.false_eq_true,
    List.takeWhile_append_of_pos hall, List.dropWhile_append_of_pos hall,
    takeWhile_isWordChar hrest, dropWhile_isWordChar hrest, List.append_nil,
    htoken]

/-! ## Tokens -/

namespace Token

/-- The number of the token is one, and its text is there. -/
def IsProper : Token → Prop
  | number digits => isNumber digits = true
  | text value => value.isSome = true
  | _ => True

/-- The token is a single character. -/
def IsSign (token : Token) : Prop :=
  ∃ c, token.chars = [c] ∧ ofChar? c = some token

end Token

/-- A single character is read as one token. -/
theorem readTokens_sign
    {token : Token}
    (done : List Token)
    (rest : List Char)
    (h : token.IsSign) :
    readTokens done (token.chars ++ rest) = readTokens (token :: done) rest := by
  obtain ⟨c, hc, htoken⟩ := h
  have hspace : isSpace c = false := by
    rw [Bool.eq_false_iff]
    intro h
    simp only [isSpace, Bool.or_eq_true, beq_iff_eq] at h
    rcases h with ((rfl | rfl) | rfl) | rfl
    all_goals simp [Token.ofChar?] at htoken
  have hquote : c ≠ '"' := by
    rintro rfl
    simp [Token.ofChar?] at htoken
  rw [hc, List.singleton_append, readTokens]
  simp only [hspace, hquote, if_false, Bool.false_eq_true, htoken]

theorem endsWord_sign
    {token : Token}
    (rest : List Char)
    (h : token.IsSign) :
    EndsWord (token.chars ++ rest) := by
  obtain ⟨c, hc, htoken⟩ := h
  rw [hc]
  rintro d hd
  cases hd
  simp [isWordChar, htoken]

/-- **A proper token is read back if it does not go on as a word.** -/
theorem readTokens_chars
    {token : Token}
    {rest : List Char}
    (done : List Token)
    (hproper : token.IsProper)
    (hrest : EndsWord rest) :
    readTokens done (token.chars ++ rest) = readTokens (token :: done) rest := by
  cases token with
  | openArray => exact readTokens_sign done rest ⟨'[', rfl, rfl⟩
  | closeArray => exact readTokens_sign done rest ⟨']', rfl, rfl⟩
  | openObject => exact readTokens_sign done rest ⟨'\x7b', rfl, rfl⟩
  | closeObject => exact readTokens_sign done rest ⟨'\x7d', rfl, rfl⟩
  | comma => exact readTokens_sign done rest ⟨',', rfl, rfl⟩
  | colon => exact readTokens_sign done rest ⟨':', rfl, rfl⟩
  | null =>
      exact readTokens_word done (by decide) (List.all_eq_true.mp (by decide))
        (by decide) hrest
  | bool value =>
      cases value
      all_goals
        exact readTokens_word done (by decide) (List.all_eq_true.mp (by decide))
          (by decide) hrest
  | number digits =>
      obtain ⟨hne, hall⟩ := isWord_of_isNumber hproper
      exact readTokens_word done hne hall (ofWord?_number hproper) hrest
  | text value =>
      obtain ⟨s, rfl⟩ := Option.isSome_iff_exists.mp hproper
      exact readTokens_quote done s rest

/-- The tokens are read back if what follows does not go on a word. -/
def ReadsBack (tokens : List Token) : Prop :=
  ∀ done rest, EndsWord rest →
    readTokens done (tokens.flatMap Token.chars ++ rest) =
      readTokens (tokens.reverse ++ done) rest

theorem readsBack_nil :
    ReadsBack [] := by
  intro done rest _
  rfl

theorem readsBack_singleton
    {token : Token}
    (h : token.IsProper) :
    ReadsBack [token] := by
  intro done rest hrest
  rw [List.flatMap_singleton, readTokens_chars done h hrest]
  rfl

theorem readsBack_sign_cons
    {sign : Token}
    {tokens : List Token}
    (hsign : sign.IsSign)
    (h : ReadsBack tokens) :
    ReadsBack (sign :: tokens) := by
  intro done rest hrest
  rw [List.flatMap_cons, List.append_assoc, readTokens_sign done _ hsign,
    h _ _ hrest]
  simp

/-- A sign keeps apart what stands before and after it. -/
theorem readsBack_append_sign
    {sign : Token}
    {tokens tokens' : List Token}
    (h : ReadsBack tokens)
    (hsign : sign.IsSign)
    (h' : ReadsBack tokens') :
    ReadsBack (tokens ++ sign :: tokens') := by
  intro done rest hrest
  rw [List.flatMap_append, List.append_assoc, List.flatMap_cons,
    List.append_assoc, h _ _ (endsWord_sign _ hsign), readTokens_sign _ _ hsign,
    h' _ _ hrest]
  simp

/-! ## Values -/

theorem itemTokens_cons_cons
    (v w : Value)
    (items : List Value) :
    itemTokens (v :: w :: items) =
      v.tokens ++ .comma :: itemTokens (w :: items) := by
  rfl

theorem fieldTokens_cons_cons
    (key : Option (List Char))
    (v : Value)
    (field : Option (List Char) × Value)
    (fields : List (Option (List Char) × Value)) :
    fieldTokens ((key, v) :: field :: fields) =
      .text key :: .colon :: (v.tokens ++ .comma :: fieldTokens (field :: fields)) := by
  rfl

namespace Value

/-- All numbers of the value are numbers, and all its texts are there. -/
def IsProper (v : Value) : Prop :=
  ∀ token ∈ v.tokens, token.IsProper

theorem isProper_ofString
    (s : String) :
    (ofString s).IsProper := by
  simp [IsProper, ofString, tokens, Token.IsProper]

theorem isProper_bool
    (b : Bool) :
    (bool b).IsProper := by
  simp [IsProper, tokens, Token.IsProper]

theorem isProper_array
    {items : List Value}
    (h : ∀ v ∈ items, v.IsProper) :
    (array items).IsProper := by
  have hitems : ∀ token ∈ itemTokens items, token.IsProper := by
    induction items with
    | nil => simp [itemTokens]
    | cons v items ih =>
        rw [List.forall_mem_cons] at h
        cases items with
        | nil => exact h.1
        | cons w items =>
            rw [itemTokens_cons_cons, List.forall_mem_append, List.forall_mem_cons]
            exact ⟨h.1, trivial, ih h.2⟩
  rw [IsProper, tokens, List.forall_mem_cons, List.forall_mem_append,
    List.forall_mem_singleton]
  exact ⟨trivial, hitems, trivial⟩

theorem isProper_object
    {fields : List (Option (List Char) × Value)}
    (h : ∀ field ∈ fields, field.1.isSome = true ∧ field.2.IsProper) :
    (object fields).IsProper := by
  have hfields : ∀ token ∈ fieldTokens fields, token.IsProper := by
    induction fields with
    | nil => simp [fieldTokens]
    | cons field fields ih =>
        rw [List.forall_mem_cons] at h
        obtain ⟨⟨hkey, hvalue⟩, h⟩ := h
        cases fields with
        | nil =>
            rw [fieldTokens, List.forall_mem_cons, List.forall_mem_cons]
            exact ⟨hkey, trivial, hvalue⟩
        | cons field' fields =>
            rw [fieldTokens_cons_cons, List.forall_mem_cons, List.forall_mem_cons,
              List.forall_mem_append, List.forall_mem_cons]
            exact ⟨hkey, trivial, hvalue, trivial, ih h⟩
  rw [IsProper, tokens, List.forall_mem_cons, List.forall_mem_append,
    List.forall_mem_singleton]
  exact ⟨trivial, hfields, trivial⟩

end Value

mutual

/-- The tokens of a proper value are read back. -/
theorem readsBack_tokens :
    (v : Value) →
    (∀ token ∈ v.tokens, token.IsProper) →
    ReadsBack v.tokens
  | .null, h => readsBack_singleton (List.forall_mem_singleton.mp h)
  | .bool _, h => readsBack_singleton (List.forall_mem_singleton.mp h)
  | .number _, h => readsBack_singleton (List.forall_mem_singleton.mp h)
  | .text _, h => readsBack_singleton (List.forall_mem_singleton.mp h)
  | .array items, h => by
      simp only [Value.tokens, List.forall_mem_cons, List.forall_mem_append] at h
      exact readsBack_sign_cons ⟨'[', rfl, rfl⟩
        (readsBack_append_sign (readsBack_itemTokens items h.2.1)
          ⟨']', rfl, rfl⟩ readsBack_nil)
  | .object fields, h => by
      simp only [Value.tokens, List.forall_mem_cons, List.forall_mem_append] at h
      exact readsBack_sign_cons ⟨'\x7b', rfl, rfl⟩
        (readsBack_append_sign (readsBack_fieldTokens fields h.2.1)
          ⟨'\x7d', rfl, rfl⟩ readsBack_nil)

theorem readsBack_itemTokens :
    (items : List Value) →
    (∀ token ∈ itemTokens items, token.IsProper) →
    ReadsBack (itemTokens items)
  | [], _ => readsBack_nil
  | [v], h => readsBack_tokens v h
  | v :: w :: items, h => by
      simp only [itemTokens, List.forall_mem_cons, List.forall_mem_append] at h
      exact readsBack_append_sign (readsBack_tokens v h.1) ⟨',', rfl, rfl⟩
        (readsBack_itemTokens (w :: items) h.2.2)

theorem readsBack_fieldTokens :
    (fields : List (Option (List Char) × Value)) →
    (∀ token ∈ fieldTokens fields, token.IsProper) →
    ReadsBack (fieldTokens fields)
  | [], _ => readsBack_nil
  | [(key, v)], h => by
      simp only [fieldTokens, List.forall_mem_cons] at h
      exact readsBack_append_sign (readsBack_singleton h.1) ⟨':', rfl, rfl⟩
        (readsBack_tokens v h.2.2)
  | (key, v) :: field :: fields, h => by
      simp only [fieldTokens, List.forall_mem_cons, List.forall_mem_append] at h
      exact readsBack_append_sign (readsBack_singleton h.1) ⟨':', rfl, rfl⟩
        (readsBack_append_sign (readsBack_tokens v h.2.2.1) ⟨',', rfl, rfl⟩
          (readsBack_fieldTokens (field :: fields) h.2.2.2.2))

end

/-! ## Places -/

namespace Place

theorem run_append
    (place : Place)
    (tokens tokens' : List Token) :
    place.run (tokens ++ tokens') =
      (place.run tokens).bind fun place => place.run tokens' := by
  induction tokens generalizing place with
  | nil => rfl
  | cons token tokens ih =>
      rw [List.cons_append, run, run]
      cases place.step token with
      | none => rfl
      | some place => exact ih place

/-- Some tokens bring the reader from one place to another and the rest of the
tokens from there. -/
theorem run_append_of_eq_some
    {place place' : Place}
    {tokens : List Token}
    (h : place.run tokens = some place')
    (tokens' : List Token) :
    place.run (tokens ++ tokens') = place'.run tokens' := by
  rw [run_append, h]
  rfl

/-- A step brings the reader from one place to another and the rest of the
tokens from there. -/
theorem run_cons_of_eq_some
    {place place' : Place}
    {token : Token}
    (h : place.step token = some place')
    (tokens : List Token) :
    place.run (token :: tokens) = place'.run tokens := by
  rw [run, h]

/-- An array that has been opened goes on like one with no items so far. -/
theorem run_arrayStart
    (stack : List Frame)
    (v : Value)
    (tokens : List Token) :
    (arrayStart stack).run (v.tokens ++ tokens) =
      (beforeValue (.array [] :: stack)).run (v.tokens ++ tokens) := by
  cases v <;> rfl

mutual

/-- **The tokens of a value bring the reader behind it.** -/
theorem run_tokens :
    (v : Value) →
    (stack : List Frame) →
    (beforeValue stack).run v.tokens = some (afterValue v stack)
  | .null, _ => rfl
  | .bool _, _ => rfl
  | .number _, _ => rfl
  | .text _, _ => rfl
  | .array [], _ => rfl
  | .array [v], stack => by
      have hitems := run_itemTokens [v] (List.cons_ne_nil _ _) [] stack
      rw [itemTokens, ← run_arrayStart] at hitems
      exact hitems
  | .array (v :: w :: items), stack => by
      have hitems := run_itemTokens (v :: w :: items) (List.cons_ne_nil _ _) [] stack
      rw [itemTokens_cons_cons, List.append_assoc, ← run_arrayStart,
        ← List.append_assoc] at hitems
      exact hitems
  | .object [], _ => rfl
  | .object [(key, v)], stack =>
      run_fieldTokens [(key, v)] (List.cons_ne_nil _ _) [] stack
  | .object ((key, v) :: field :: fields), stack =>
      run_fieldTokens ((key, v) :: field :: fields) (List.cons_ne_nil _ _) [] stack

/-- The items of an array bring the reader behind the array. -/
theorem run_itemTokens :
    (items : List Value) →
    items ≠ [] →
    (before : List Value) →
    (stack : List Frame) →
    (beforeValue (Frame.array before :: stack)).run
        (itemTokens items ++ [Token.closeArray]) =
      some (afterValue (Value.array (before.reverse ++ items)) stack)
  | [], hne, _, _ => absurd rfl hne
  | [v], _, before, stack => by
      rw [itemTokens, run_append_of_eq_some (run_tokens v _)]
      simp [run, step, endValue]
  | v :: w :: items, _, before, stack => by
      rw [itemTokens_cons_cons, List.append_assoc,
        run_append_of_eq_some (run_tokens v _), List.cons_append,
        run_cons_of_eq_some rfl,
        run_itemTokens (w :: items) (List.cons_ne_nil _ _) (v :: before) stack]
      simp

/-- The fields of an object bring the reader behind the object. -/
theorem run_fieldTokens :
    (fields : List (Option (List Char) × Value)) →
    fields ≠ [] →
    (before : List (Option (List Char) × Value)) →
    (stack : List Frame) →
    (beforeKey before stack).run (fieldTokens fields ++ [Token.closeObject]) =
      some (afterValue (Value.object (before.reverse ++ fields)) stack)
  | [], hne, _, _ => absurd rfl hne
  | [(key, v)], _, before, stack => by
      rw [fieldTokens, List.cons_append, List.cons_append,
        run_cons_of_eq_some rfl, run_cons_of_eq_some rfl,
        run_append_of_eq_some (run_tokens v _)]
      simp [run, step, endValue]
  | (key, v) :: field :: fields, _, before, stack => by
      rw [fieldTokens_cons_cons, List.cons_append, List.cons_append,
        List.append_assoc, run_cons_of_eq_some rfl, run_cons_of_eq_some rfl,
        run_append_of_eq_some (run_tokens v _), List.cons_append,
        run_cons_of_eq_some rfl,
        run_fieldTokens (field :: fields) (List.cons_ne_nil _ _)
          ((key, v) :: before) stack]
      simp

end

end Place

/-! ## Values and their texts -/

namespace Value

theorem ofTokens?_tokens
    (v : Value) :
    ofTokens? v.tokens = some v := by
  rw [ofTokens?, Place.run_tokens]

/-- **A proper value is read back from its text.** -/
theorem parse?_chars
    {v : Value}
    (h : v.IsProper) :
    parse? v.chars = some v := by
  have htokens : Token.ofText? v.chars = some v.tokens := by
    have hread := readsBack_tokens v h [] [] (by simp [EndsWord])
    rw [List.append_nil] at hread
    rw [Token.ofText?, chars, hread]
    simp [readTokens]
  rw [parse?, htokens]
  exact ofTokens?_tokens v

/-- The text of an array: the texts of its items with commas between them. -/
theorem chars_array
    (items : List Value) :
    (array items).chars =
      '[' :: (List.intercalate [','] (items.map chars) ++ [']']) := by
  have hitems :
      (itemTokens items).flatMap Token.chars =
        List.intercalate [','] (items.map chars) := by
    induction items with
    | nil => rfl
    | cons v items ih =>
        cases items with
        | nil => simp [itemTokens, chars]
        | cons w items =>
            have hcomma : Token.comma.chars = [','] := rfl
            rw [itemTokens_cons_cons, List.flatMap_append, List.flatMap_cons, ih]
            simp [List.intercalate, hcomma, chars]
  rw [chars, tokens, List.flatMap_cons, List.flatMap_append, hitems]
  rfl

end Value

end Json
end FilterCompiler
