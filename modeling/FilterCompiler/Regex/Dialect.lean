import FilterCompiler.Text.Split

/-!
# The host's regex dialect

The host understands a small regex language: no alternation, no counted repetition, anchors only at
the two ends, and a handful of escapes. `check` reads a source from left to right and reports the
first offence with its position in bytes.
-/

namespace FilterCompiler
namespace Regex

/-- Why a source is outside the dialect, with the byte offset of the offence. -/
inductive DialectError where
  | nonAscii (pos : Nat)
  | incompleteEscape (pos : Nat)
  | unsupportedEscape (pos : Nat)
  | misplacedStartAnchor (pos : Nat)
  | misplacedEndAnchor (pos : Nat)
  | alternation (pos : Nat)
  | repetitionRange (pos : Nat)
  | unquantifiable (pos : Nat)
  | unbalancedBrackets (pos : Nat)
deriving DecidableEq, Repr

namespace DialectError

/-- The byte offset of the offence. -/
def position : DialectError → Nat
  | nonAscii p | incompleteEscape p | unsupportedEscape p | misplacedStartAnchor p
  | misplacedEndAnchor p | alternation p | repetitionRange p | unquantifiable p
  | unbalancedBrackets p => p

/-- The wording of the error. -/
def message : DialectError → String
  | nonAscii p => s!"Non ASCII character at byte {p}"
  | incompleteEscape p => s!"Incomplete escape sequence at byte {p}"
  | unsupportedEscape p => s!"Unsupported escape sequence at byte {p}"
  | misplacedStartAnchor p => s!"Start-of-line anchor misplaced at byte {p}"
  | misplacedEndAnchor p => s!"End-of-line anchor misplaced at byte {p}"
  | alternation p => s!"Alternation is not allowed (byte {p})"
  | repetitionRange p => s!"Explicit repetition range is not allowed (byte {p})"
  | unquantifiable p => s!"Quantifier applies to nothing at byte {p}"
  | unbalancedBrackets p => s!"Unbalanced brackets at byte {p}"

end DialectError

/-- A bracket that is still open. -/
inductive Bracket where
  | group
  | charClass
deriving DecidableEq, Repr

/-- The characters that may follow a backslash. -/
def isEscapable (c : Char) : Bool :=
  c ∈ ['.', '*', '+', '?', '/', '[', ']', '(', ')', '|', '{', '}', '^', '$', '\\']

/-- What the checker knows after the characters read so far. -/
structure Scan where
  /-- The brackets that are open, innermost first. -/
  stack : List Bracket
  /-- A quantifier may follow. -/
  quantifiable : Bool
deriving DecidableEq, Repr

/-- The innermost open bracket is a character class. -/
def Scan.inClass (st : Scan) : Bool := st.stack.head? == some .charClass

/-- Reads one unescaped character at byte `pos`; `isLast` says that nothing follows it. -/
def Scan.step (st : Scan) (pos : Nat) (isLast : Bool) (c : Char) : Except DialectError Scan :=
  if c = '(' then
    .ok (if st.inClass then st else { stack := .group :: st.stack, quantifiable := false })
  else if c = '[' then .ok { stack := .charClass :: st.stack, quantifiable := false }
  else if c = ')' then
    if st.inClass then .ok { st with quantifiable := true }
    else
      match st.stack with
      | .group :: stack => .ok { stack, quantifiable := true }
      | _ => .error (.unbalancedBrackets pos)
  else if c = ']' then
    match st.stack with
    | .charClass :: stack => .ok { stack, quantifiable := true }
    | _ => .error (.unbalancedBrackets pos)
  else if c = '^' then
    if pos ≠ 0 ∧ ¬ st.inClass then .error (.misplacedStartAnchor pos)
    else .ok { st with quantifiable := false }
  else if c = '$' then
    if ¬ isLast ∧ ¬ st.inClass then .error (.misplacedEndAnchor pos)
    else .ok { st with quantifiable := false }
  else if c = '|' then
    if st.inClass then .ok st else .error (.alternation pos)
  else if c = '{' ∨ c = '}' then
    if st.inClass then .ok st else .error (.repetitionRange pos)
  else if c = '*' ∨ c = '+' ∨ c = '?' then
    if ¬ st.quantifiable ∧ ¬ st.inClass then .error (.unquantifiable pos)
    else .ok { st with quantifiable := false }
  else .ok { st with quantifiable := true }

/-- Checks the rest of a source from byte `pos` on. -/
def checkFrom (pos : Nat) (st : Scan) : List Char → Except DialectError Unit
  | [] => if st.stack.isEmpty then .ok () else .error (.unbalancedBrackets pos)
  | c :: rest =>
      if ¬ Text.isAscii c then .error (.nonAscii pos)
      else if c = '\\' then
        match rest with
        | [] => .error (.incompleteEscape pos)
        | e :: rest =>
            if isEscapable e then checkFrom (pos + 2) { st with quantifiable := true } rest
            else .error (.unsupportedEscape pos)
      else
        match st.step pos rest.isEmpty c with
        | .ok st => checkFrom (pos + 1) st rest
        | .error e => .error e

/-- Checks a regex source against the dialect. -/
def check (source : String) : Except DialectError Unit :=
  checkFrom 0 { stack := [], quantifiable := false } source.toList

end Regex
end FilterCompiler
