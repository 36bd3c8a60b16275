/-!
# Cutting and searching texts

A text is a list of characters here. Every cut returns the pieces themselves, never a position, so
that a piece is always a whole number of characters. Where a position is reported it is counted in
UTF-8 bytes, by `byteLength`.
-/

namespace FilterCompiler
namespace Text

/-- The number of bytes that the text takes in UTF-8. -/
def byteLength : List Char → Nat
  | [] => 0
  | c :: s => c.utf8Size + byteLength s

@[simp] theorem byteLength_append (s t : List Char) :
    byteLength (s ++ t) = byteLength s + byteLength t := by
  induction s with
  | nil => simp [byteLength]
  | cons c s ih => simp [byteLength, ih, Nat.add_assoc]

/-- The character is an ASCII character. -/
def isAscii (c : Char) : Bool := c.toNat < 128

/-- The rest of `s` after `lead`, if `s` begins with `lead`. -/
def dropLead? : List Char → List Char → Option (List Char)
  | [], s => some s
  | _ :: _, [] => none
  | a :: lead, c :: s => if a = c then dropLead? lead s else none

/-- The text begins with `lead`. -/
def beginsWith (lead s : List Char) : Bool := (dropLead? lead s).isSome

/-- The text ends with the character `c`. -/
def endsWithChar (c : Char) (s : List Char) : Bool := s.getLast? == some c

/-- What stands before and after the first occurrence of the character `c`. -/
def breakAt? (c : Char) : List Char → Option (List Char × List Char)
  | [] => none
  | d :: s => if d = c then some ([], s) else (breakAt? c s).map fun p => (d :: p.1, p.2)

/-- What stands before and after the last occurrence of the character `c`. -/
def breakAtLast? (c : Char) : List Char → Option (List Char × List Char)
  | [] => none
  | d :: s =>
      match breakAtLast? c s with
      | some p => some (d :: p.1, p.2)
      | none => if d = c then some ([], s) else none

/-- What stands before and after the first occurrence of the text `needle`. -/
def breakOn? (needle : List Char) : List Char → Option (List Char × List Char)
  | [] => (dropLead? needle []).map fun rest => ([], rest)
  | c :: s =>
      match dropLead? needle (c :: s) with
      | some rest => some ([], rest)
      | none => (breakOn? needle s).map fun p => (c :: p.1, p.2)

/-- The text `needle` occurs in `s`. -/
def occurs (needle s : List Char) : Bool := (breakOn? needle s).isSome

/-- Puts a character in front of the first piece. -/
def consFirst (c : Char) : List (List Char) → List (List Char)
  | [] => [[c]]
  | piece :: pieces => (c :: piece) :: pieces

/-- The pieces between the occurrences of the character `sep`; there is always at least one. -/
def splitOn (sep : Char) : List Char → List (List Char)
  | [] => [[]]
  | c :: s => if c = sep then [] :: splitOn sep s else consFirst c (splitOn sep s)

/-- The pieces between the occurrences of the two characters `a`, `b` in a row, found from the left. -/
def splitOnPair (a b : Char) : List Char → List (List Char)
  | [] => [[]]
  | [c] => [[c]]
  | c :: d :: s =>
      if c = a ∧ d = b then [] :: splitOnPair a b s
      else consFirst c (splitOnPair a b (d :: s))

/-- The pieces between the occurrences of `sep` that no backslash precedes. A backslash in front of
`sep` is dropped and the separator kept; any other backslash stands for itself. -/
def splitEscaped (sep : Char) : List Char → List (List Char)
  | [] => [[]]
  | [c] => if c = sep then [[], []] else [[c]]
  | c :: d :: s =>
      if c = '\\' ∧ d = sep then consFirst sep (splitEscaped sep s)
      else if c = sep then [] :: splitEscaped sep (d :: s)
      else consFirst c (splitEscaped sep (d :: s))

/-- Every occurrence of `old`, found from the left, replaced by `new`. The first argument counts the
characters of an occurrence that are still to be skipped. -/
def replaceFrom (old new : List Char) : Nat → List Char → List Char
  | _, [] => []
  | skip + 1, _ :: s => replaceFrom old new skip s
  | 0, c :: s =>
      if beginsWith old (c :: s) then new ++ replaceFrom old new (old.length - 1) s
      else c :: replaceFrom old new 0 s

/-- Every occurrence of the non-empty text `old`, found from the left, replaced by `new`. -/
def replaceAll (old new s : List Char) : List Char := replaceFrom old new 0 s

/-- The text with `new` in the place of the first occurrence of `old`. -/
def replaceFirst (old new s : List Char) : List Char :=
  match breakOn? old s with
  | some (before, after) => before ++ new ++ after
  | none => s

/-- The text without the first occurrence of `needle`. -/
def removeFirst (needle s : List Char) : List Char :=
  match breakOn? needle s with
  | some (before, after) => before ++ after
  | none => s

/-- The pieces in a row, with `sep` between them. -/
def joinWith (sep : List Char) : List (List Char) → List Char
  | [] => []
  | [piece] => piece
  | piece :: pieces => piece ++ sep ++ joinWith sep pieces

/-- The text without the occurrences of `c` at either end. -/
def trimChar (c : Char) (s : List Char) : List Char :=
  ((s.dropWhile (· == c)).reverse.dropWhile (· == c)).reverse

/-- Whether a tilde is in front, and what stands after it. -/
def cutTilde : List Char → Bool × List Char
  | '~' :: s => (true, s)
  | s => (false, s)

/-- What stands before and after the first `=`; all of `s` and nothing if there is none. -/
def nameAndValue (s : List Char) : List Char × List Char :=
  (breakAt? '=' s).getD (s, [])

theorem breakAt?_eq_some {c : Char} {s : List Char} {p : List Char × List Char}
    (h : breakAt? c s = some p) : s = p.1 ++ c :: p.2 := by
  induction s generalizing p with
  | nil => simp [breakAt?] at h
  | cons d s ih =>
    simp only [breakAt?] at h
    split at h
    · cases h; simp_all
    · obtain ⟨q, hq, rfl⟩ := Option.map_eq_some_iff.1 h
      simp [← ih hq]

theorem breakAtLast?_eq_some {c : Char} {s : List Char} {p : List Char × List Char}
    (h : breakAtLast? c s = some p) : s = p.1 ++ c :: p.2 := by
  induction s generalizing p with
  | nil => simp [breakAtLast?] at h
  | cons d s ih =>
    simp only [breakAtLast?] at h
    split at h
    · next q hq => cases h; simp [← ih hq]
    · split at h
      · cases h; simp_all
      · simp at h

theorem dropLead?_eq_some_iff {lead s rest : List Char} :
    dropLead? lead s = some rest ↔ s = lead ++ rest := by
  induction lead generalizing s with
  | nil => simp [dropLead?, eq_comm]
  | cons a lead ih =>
    cases s with
    | nil => simp [dropLead?]
    | cons c s =>
      simp only [dropLead?]
      split
      · next h => subst h; simp [ih]
      · next h => simp [Ne.symm h]

end Text
end FilterCompiler
