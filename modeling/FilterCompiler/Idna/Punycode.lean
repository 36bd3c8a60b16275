import FilterCompiler.Text.Split

/-!
# Punycode

A label with characters beyond ASCII is written with ASCII characters only: first its ASCII
characters, then a hyphen, then where the others go. Each of these, in ascending order, is a number:
how many places the pair of character and position has moved on since the last one. A number is
written in digits of base 36 whose thresholds adapt to the numbers before.
-/

namespace FilterCompiler
namespace Punycode

/-- The character of a digit: letters first, then decimal digits. -/
def digitChar (d : Nat) : Char :=
  if d < 26 then Char.ofNat (0x61 + d) else Char.ofNat (0x30 + (d - 26))

/-- The value of a digit in small letters. -/
def digitValue? (c : Char) : Option Nat :=
  if 'a' ≤ c ∧ c ≤ 'z' then some (c.toNat - 0x61)
  else if '0' ≤ c ∧ c ≤ '9' then some (c.toNat - 0x30 + 26)
  else none

/-- From which value on the digit at place `k` (36, 72, …) says that more digits follow. -/
def threshold (k bias : Nat) : Nat :=
  if k ≤ bias then 1 else if bias + 26 ≤ k then 26 else k - bias

theorem threshold_bounds (k bias : Nat) : 1 ≤ threshold k bias ∧ threshold k bias ≤ 26 := by
  unfold threshold
  split
  · omega
  · split <;> omega

/-- Divides `delta` by 35 until it is at most 455, and adds 36 to `k` each time. -/
def shrink (delta k : Nat) : Nat × Nat :=
  if h : 455 < delta then shrink (delta / 35) (k + 36) else (delta, k)
termination_by delta
decreasing_by exact Nat.div_lt_self (by omega) (by omega)

/-- The bias after the number `delta`, when `count` characters are in place. -/
def adapt (delta count : Nat) (isFirst : Bool) : Nat :=
  let halved := if isFirst then delta / 700 else delta / 2
  let (rest, k) := shrink (halved + halved / count) 0
  k + 36 * rest / (rest + 38)

/-! ## Writing -/

/-- The digits of a number, from place `k` on. -/
def digits (bias k q : Nat) : List Char :=
  let t := threshold k bias
  if q < t then [digitChar q]
  else digitChar (t + (q - t) % (36 - t)) :: digits bias (k + 36) ((q - t) / (36 - t))
termination_by q
decreasing_by
  have h := threshold_bounds k bias
  have := Nat.div_le_self (q - threshold k bias) (36 - threshold k bias)
  omega

/-- What the writer knows: the digits so far in reverse, the number that has built up, the bias, and
how many characters are in place. -/
structure Writer where
  done : List Char
  delta : Nat
  bias : Nat
  count : Nat

/-- Passes one character of the label while the characters of value `m` are being placed. -/
def Writer.pass (isFirstOf m : Nat) (w : Writer) (c : Char) : Writer :=
  if c.toNat < m then { w with delta := w.delta + 1 }
  else if c.toNat = m then
    { done := (digits w.bias 36 w.delta).reverse ++ w.done, delta := 0,
      bias := adapt w.delta (w.count + 1) (w.count == isFirstOf), count := w.count + 1 }
  else w

/-- Places the characters of the given values, ascending; `n` is the least value not yet done. -/
def Writer.place (label : List Char) (basic : Nat) : List Nat → Nat → Writer → Writer
  | [], _, w => w
  | m :: values, n, w =>
      let w := label.foldl (Writer.pass basic m) { w with delta := w.delta + (m - n) * (w.count + 1) }
      Writer.place label basic values (m + 1) { w with delta := w.delta + 1 }

/-- The ASCII characters of a label. -/
def basicPart (label : List Char) : List Char := label.filter Text.isAscii

/-- The values of the characters beyond ASCII, ascending and each once. -/
def extendedValues (label : List Char) : List Nat :=
  (((label.filter (!Text.isAscii ·)).map Char.toNat).mergeSort (· ≤ ·)).eraseDups

/-- The written form of a label, without the lead that marks it. -/
def encode (label : List Char) : List Char :=
  let basic := basicPart label
  let start : Writer := { done := [], delta := 0, bias := 72, count := basic.length }
  let w := Writer.place label basic.length (extendedValues label) 128 start
  (if basic.isEmpty then [] else basic ++ ['-']) ++ w.done.reverse

/-! ## Reading -/

/-- Numbers that take more than 32 bits are refused. -/
def numberLimit : Nat := UInt32.size

/-- Reads one number from place `k` on and adds it to `sum`; the rest of the text comes with it. -/
def readNumber (bias k weight sum : Nat) : List Char → Option (Nat × List Char)
  | [] => none
  | c :: s =>
      match digitValue? c with
      | none => none
      | some d =>
          let t := threshold k bias
          if numberLimit ≤ sum + d * weight then none
          else if d < t then some (sum + d * weight, s)
          else if numberLimit ≤ weight * (36 - t) then none
          else readNumber bias (k + 36) (weight * (36 - t)) (sum + d * weight) s

theorem length_readNumber_lt {bias k weight sum : Nat} {s : List Char} {p : Nat × List Char}
    (h : readNumber bias k weight sum s = some p) : p.2.length < s.length := by
  induction s generalizing k weight sum with
  | nil => simp [readNumber] at h
  | cons c s ih =>
    simp only [readNumber] at h
    split at h
    · simp at h
    · split at h
      · simp at h
      · split at h
        · cases h; simp
        · split at h
          · simp at h
          · have := ih h
            simp
            omega

/-- The character of a value, if there is one. -/
def charOf? (n : Nat) : Option Char := if n.isValidChar then some (Char.ofNat n) else none

/-- Reads the numbers of `s` and puts a character into `label` for each. `n` is the value and `i` the
position that the last one had. -/
def readAll (label : List Char) (n i bias : Nat) (isFirst : Bool) (s : List Char) :
    Option (List Char) :=
  if s.isEmpty then some label
  else
    match _h : readNumber bias 36 1 i s with
    | none => none
    | some (j, rest) =>
        let count := label.length + 1
        match charOf? (n + j / count) with
        | none => none
        | some c =>
            let position := j % count
            readAll (label.take position ++ c :: label.drop position) (n + j / count) (position + 1)
              (adapt (j - i) count isFirst) false rest
termination_by s.length
decreasing_by exact length_readNumber_lt _h

/-- The ASCII characters of a written form, and its digits. A hyphen at the start parts nothing: it is
left to be read as a digit, which it is not. -/
def parts (s : List Char) : List Char × List Char :=
  match Text.breakAtLast? '-' s with
  | some (c :: basic, extended) => (c :: basic, extended)
  | _ => ([], s)

/-- The label of a written form in small letters, if it is one. -/
def decode? (s : List Char) : Option (List Char) :=
  let (basic, extended) := parts s
  if s.all Text.isAscii then readAll basic 128 0 72 true extended else none

end Punycode
end FilterCompiler
