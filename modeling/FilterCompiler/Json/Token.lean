import FilterCompiler.Text.Split

/-!
# JSON tokens

The pieces of a JSON text and how each is written. A text between quotes is read as a list of units:
characters, and halves of characters beyond the 16-bit range that were escaped one by one. A text
whose halves do not pair is kept apart as unreadable, because it is an error only where a text is
asked for.
-/

namespace FilterCompiler
namespace Json

/-- A piece of a JSON text. -/
inductive Token where
  | openArray
  | closeArray
  | openObject
  | closeObject
  | comma
  | colon
  | null
  | bool (value : Bool)
  /-- A number, as it is written. -/
  | number (digits : List Char)
  /-- A text, or nothing if its halves do not pair. -/
  | text (value : Option (List Char))
deriving DecidableEq, Repr

/-! ## Writing -/

/-- A digit of a hexadecimal numeral in small letters. -/
def hexDigit (n : Nat) : Char :=
  if n < 10 then Char.ofNat (0x30 + n) else Char.ofNat (0x61 + (n - 10))

/-- How a character is written between quotes. -/
def escape (c : Char) : List Char :=
  if c = '"' then ['\\', '"']
  else if c = '\\' then ['\\', '\\']
  else if c = '\n' then ['\\', 'n']
  else if c = '\r' then ['\\', 'r']
  else if c = '\t' then ['\\', 't']
  else if c = '\x08' then ['\\', 'b']
  else if c = '\x0c' then ['\\', 'f']
  else if c.toNat < 32 then
    ['\\', 'u', '0', '0', hexDigit (c.toNat / 16), hexDigit (c.toNat % 16)]
  else [c]

/-- A text in quotes. -/
def quote (s : List Char) : List Char := '"' :: s.flatMap escape ++ ['"']

/-- How a token is written. -/
def Token.chars : Token → List Char
  | openArray => ['[']
  | closeArray => [']']
  | openObject => ['\x7b']
  | closeObject => ['\x7d']
  | comma => [',']
  | colon => [':']
  | null => "null".toList
  | bool true => "true".toList
  | bool false => "false".toList
  | number digits => digits
  | text value => quote (value.getD [])

/-! ## Texts -/

/-- A unit of a text in quotes. -/
inductive TextUnit where
  | char (c : Char)
  /-- One half of a character beyond the 16-bit range. -/
  | half (n : Nat)
deriving DecidableEq, Repr

/-- The character of a first and a second half. -/
def pairHalves? (high low : Nat) : Option Char :=
  if 0xD800 ≤ high ∧ high < 0xDC00 ∧ 0xDC00 ≤ low ∧ low < 0xE000 then
    some (Char.ofNat (0x10000 + (high - 0xD800) * 0x400 + (low - 0xDC00)))
  else none

/-- Adds to `done`, in reverse, the characters of some units. -/
def joinUnitsFrom (done : List Char) : List TextUnit → Option (List Char)
  | [] => some done.reverse
  | .char c :: units => joinUnitsFrom (c :: done) units
  | .half high :: .half low :: units =>
      match pairHalves? high low with
      | some c => joinUnitsFrom (c :: done) units
      | none => none
  | .half _ :: _ => none

/-- The characters of some units, if all halves pair. -/
def joinUnits (units : List TextUnit) : Option (List Char) := joinUnitsFrom [] units

/-- The value of a digit of a hexadecimal numeral. -/
def hexValue? (c : Char) : Option Nat :=
  if '0' ≤ c ∧ c ≤ '9' then some (c.toNat - 0x30)
  else if 'a' ≤ c ∧ c ≤ 'f' then some (c.toNat - 0x61 + 10)
  else if 'A' ≤ c ∧ c ≤ 'F' then some (c.toNat - 0x41 + 10)
  else none

/-- The unit that four hexadecimal digits name. -/
def unitOfHex? (a b c d : Char) : Option TextUnit :=
  match hexValue? a, hexValue? b, hexValue? c, hexValue? d with
  | some a, some b, some c, some d =>
      let n := ((a * 16 + b) * 16 + c) * 16 + d
      some (if 0xD800 ≤ n ∧ n < 0xE000 then .half n else .char (Char.ofNat n))
  | _, _, _, _ => none

/-- The character that a backslash and the given character stand for. -/
def shortEscape? (c : Char) : Option Char :=
  match c with
  | '"' => some '"'
  | '\\' => some '\\'
  | '/' => some '/'
  | 'b' => some '\x08'
  | 'f' => some '\x0c'
  | 'n' => some '\n'
  | 'r' => some '\r'
  | 't' => some '\t'
  | _ => none

/-- Reads a text up to its closing quote; `done` holds, in reverse, the units before. -/
def readText (done : List TextUnit) : List Char → Option (List TextUnit × List Char)
  | [] => none
  | '"' :: s => some (done.reverse, s)
  | '\\' :: 'u' :: a :: b :: c :: d :: s =>
      match unitOfHex? a b c d with
      | some unit => readText (unit :: done) s
      | none => none
  | '\\' :: c :: s =>
      match shortEscape? c with
      | some e => readText (.char e :: done) s
      | none => none
  | c :: s => if c = '\\' ∨ c.toNat < 32 then none else readText (.char c :: done) s

theorem length_readText_lt {done : List TextUnit} {s : List Char} {p : List TextUnit × List Char}
    (h : readText done s = some p) : p.2.length < s.length := by
  fun_induction readText done s with
  | case1 => simp at h
  | case2 => cases h; simp
  | case3 done a b c d s unit hu ih => have := ih h; simp; omega
  | case4 => simp at h
  | case5 done c s hc e he ih => have := ih h; simp; omega
  | case6 => simp at h
  | case7 => simp at h
  | case8 done c s h1 h2 h3 hc ih => have := ih h; simp; omega

/-! ## Numbers and words -/

/-- The text without the decimal digits in front, if there is at least one. -/
def dropDigits? (s : List Char) : Option (List Char) :=
  match s with
  | c :: rest => if c.isDigit then some (rest.dropWhile Char.isDigit) else none
  | [] => none

/-- The text without a whole number in front; none but zero begins with a zero. -/
def dropWhole? (s : List Char) : Option (List Char) :=
  match s with
  | '0' :: rest => some rest
  | _ => dropDigits? s

/-- The text is empty, or the exponent of a number. -/
def isExponent (s : List Char) : Bool :=
  match s with
  | [] => true
  | c :: rest =>
      let digits := match rest with
        | '+' :: digits | '-' :: digits => digits
        | digits => digits
      (c == 'e' || c == 'E') && dropDigits? digits == some []

/-- The text is what may follow the whole part of a number. -/
def isFraction (s : List Char) : Bool :=
  match s with
  | '.' :: rest => (dropDigits? rest).any isExponent
  | _ => isExponent s

/-- The text is a number. -/
def isNumber (s : List Char) : Bool :=
  match s with
  | '-' :: rest => (dropWhole? rest).any isFraction
  | _ => (dropWhole? s).any isFraction

/-- The token that a word is. -/
def Token.ofWord? (word : List Char) : Option Token :=
  if word = "null".toList then some .null
  else if word = "true".toList then some (.bool true)
  else if word = "false".toList then some (.bool false)
  else if isNumber word then some (.number word)
  else none

/-! ## Reading -/

/-- The token that a single character is. -/
def Token.ofChar? (c : Char) : Option Token :=
  match c with
  | '[' => some .openArray
  | ']' => some .closeArray
  | '\x7b' => some .openObject
  | '\x7d' => some .closeObject
  | ',' => some .comma
  | ':' => some .colon
  | _ => none

/-- The character separates tokens and is none. -/
def isSpace (c : Char) : Bool := c == ' ' || c == '\n' || c == '\t' || c == '\r'

/-- The character may stand in a word. -/
def isWordChar (c : Char) : Bool := !isSpace c && c != '"' && (Token.ofChar? c).isNone

/-- The text without the word in front is no longer than the text. -/
theorem length_dropWord_le (s : List Char) : (s.dropWhile isWordChar).length ≤ s.length := by
  induction s with
  | nil => simp
  | cons c s ih =>
    simp only [List.dropWhile_cons]
    split
    · simp; omega
    · simp

/-- Adds to `done`, in reverse, the tokens of a text. -/
def readTokens (done : List Token) (s : List Char) : Option (List Token) :=
  match s with
  | [] => some done.reverse
  | c :: rest =>
      if isSpace c then readTokens done rest
      else if c = '"' then
        match _h : readText [] rest with
        | none => none
        | some (units, after) => readTokens (.text (joinUnits units) :: done) after
      else
        match Token.ofChar? c with
        | some token => readTokens (token :: done) rest
        | none =>
            match Token.ofWord? (c :: rest.takeWhile isWordChar) with
            | none => none
            | some token => readTokens (token :: done) (rest.dropWhile isWordChar)
termination_by s.length
decreasing_by
  · simp
  · have := length_readText_lt _h
    simp at this ⊢
    omega
  · simp
  · have := length_dropWord_le rest
    simp
    omega

/-- The tokens of a text, if it consists of tokens. -/
def Token.ofText? (s : List Char) : Option (List Token) := readTokens [] s

end Json
end FilterCompiler
