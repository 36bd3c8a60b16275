import FilterCompiler.Proofs.Regex.Acceptance
import FilterCompiler.Proofs.Text.Bytes

/-!
# Where a source leaves the dialect

The checker reports the first offence with its byte.  What stands before that byte can be
completed: with the brackets that are open there closed, innermost first, it is a source
of the dialect (`offence_of_check`).

The invariant is that the stack of the checker holds the brackets that are open
(`openBrackets_of_reads`).  Only the sign `$` looks at what follows it, and outside of
classes it is passed at the end of the source only, so no offence comes after it
(`step_of_step`).
-/

namespace FilterCompiler
namespace Regex

/-! ## Open brackets -/

/-- The sign that closes a bracket. -/
def Bracket.closing : Bracket → Char
  | group => ')'
  | charClass => ']'

/-- The signs that close brackets, in order. -/
def closings (stack : List Bracket) : List Char := stack.map Bracket.closing

/-- The brackets that are open behind a character, if those of `stack` are open in front of
it.  In a class parentheses are no brackets. -/
def turn (c : Char) (stack : List Bracket) : List Bracket :=
  if c = '[' then .charClass :: stack
  else if stack.head? = some .charClass then if c = ']' then stack.tail else stack
  else if c = '(' then .group :: stack
  else if c = ')' then stack.tail
  else stack

/-- The brackets that a text leaves open, innermost first, if those of `stack` are open in
front of it.  A character behind a backslash is no bracket. -/
def openBrackets (stack : List Bracket) : List Char → List Bracket
  | [] => stack
  | '\\' :: _ :: s => openBrackets stack s
  | c :: s => openBrackets (turn c stack) s

theorem openBrackets_escape
    (stack : List Bracket)
    (e : Char)
    (s : List Char) :
    openBrackets stack ('\\' :: e :: s) = openBrackets stack s := by
  rfl

theorem openBrackets_cons
    (stack : List Bracket)
    {c : Char}
    (hc : c ≠ '\\')
    (s : List Char) :
    openBrackets stack (c :: s) = openBrackets (turn c stack) s := by
  cases s <;> simp [openBrackets, hc]

/-- **The checker accepts the signs that close what is open.** -/
theorem checkFrom_closings
    (pos : Nat)
    (stack : List Bracket)
    (q : Bool) :
    checkFrom pos ⟨stack, q⟩ (closings stack) = .ok () := by
  induction stack generalizing pos q with
  | nil => rfl
  | cons bracket stack ih =>
      cases bracket with
      | group =>
          rw [closings, List.map_cons, Bracket.closing, checkFrom_closeGroup]
          exact ih (pos + 1) true
      | charClass =>
          rw [closings, List.map_cons, Bracket.closing, checkFrom_closeClass]
          exact ih (pos + 1) true

/-! ## One step -/

/-- **The stack holds the brackets that are open.** -/
theorem turn_of_reads
    {pos : Nat}
    {isLast : Bool}
    {st st' : Scan}
    {c : Char}
    (h : Reads pos isLast st c st') :
    turn c st.stack = st'.stack := by
  cases h with
  | plain hc hstack =>
      have hne : ∀ d ∈ signs, c ≠ d := fun d hd => ne_of_isPlain hc hd
      simp only [signs, List.forall_mem_cons] at hne
      simp [turn, hne]
  | quantifier quantifier hstack => cases quantifier <;> simp [turn, Quantifier.char]
  | openGroup hstack =>
      rw [OutsideClass] at hstack
      simp [turn, hstack]
  | closeGroup => simp [turn]
  | openClass => simp [turn]
  | closeClass => simp [turn]
  | startAnchor hpos => simp [turn]
  | endAnchor hlast hstack => simp [turn]
  | classPlain hc =>
      simp only [isClassPlain, Bool.and_eq_true, bne_iff_ne] at hc
      simp [turn, hc]

/-- Only the sign `$` looks at what follows it. -/
theorem step_eq_of_ne
    {c : Char}
    (hc : c ≠ '$')
    (st : Scan)
    (pos : Nat)
    (isLast isLast' : Bool) :
    st.step pos isLast c = st.step pos isLast' c := by
  simp only [Scan.step, hc, if_false]

/-- A step over a character that more follows is one whatever follows. -/
theorem step_of_step
    {pos : Nat}
    {st st' : Scan}
    {c : Char}
    (h : st.step pos false c = .ok st')
    (isLast : Bool) :
    st.step pos isLast c = .ok st' := by
  by_cases hc : c = '$'
  · subst hc
    have hclass : st.inClass = true := by
      by_contra hclass
      simp [Scan.step, hclass] at h
    simpa [Scan.step, hclass] using h
  · rwa [step_eq_of_ne hc st pos isLast false]

/-! ## The first offence -/

/-- What is known of a rejected text: the offence is at the end, where brackets are open, or
what stands before it can be completed. -/
def OffendsAt (pos : Nat) (st : Scan) (s : List Char) (e : DialectError) : Prop :=
  ∃ before rest, s = before ++ rest ∧ e.position = pos + Text.byteLength before ∧
    (rest = [] → e = .unbalancedBrackets e.position ∧ openBrackets st.stack s ≠ []) ∧
    (rest ≠ [] →
      checkFrom pos st (before ++ closings (openBrackets st.stack before)) = .ok ())

/-- An offence at the first character. -/
theorem OffendsAt.here
    {pos : Nat}
    {st : Scan}
    {c : Char}
    {s : List Char}
    {e : DialectError}
    (he : e.position = pos) :
    OffendsAt pos st (c :: s) e :=
  ⟨[], c :: s, rfl, he, fun h => absurd h (List.cons_ne_nil c s),
    fun _ => checkFrom_closings pos st.stack st.quantifiable⟩

theorem position_of_step
    {pos : Nat}
    {isLast : Bool}
    {st : Scan}
    {c : Char}
    {e : DialectError}
    (h : st.step pos isLast c = .error e) :
    e.position = pos := by
  revert h
  fun_cases Scan.step st pos isLast c
  all_goals
    intro h
    cases h
  all_goals rfl

/-- **The checker stops at the first offence.** -/
theorem offendsAt_of_checkFrom
    {pos : Nat}
    {st : Scan}
    {s : List Char}
    {e : DialectError}
    (h : checkFrom pos st s = .error e) :
    OffendsAt pos st s e := by
  fun_induction checkFrom pos st s with
  | case1 => cases h
  | case2 pos st hopen =>
      cases h
      refine ⟨[], [], rfl, rfl, fun _ => ⟨rfl, fun hnil => ?_⟩, fun hne => absurd rfl hne⟩
      exact hopen (List.isEmpty_iff.mpr hnil)
  | case3 => cases h; exact .here rfl
  | case4 => cases h; exact .here rfl
  | case5 pos st d s hd hascii ih =>
      obtain ⟨before, rest, rfl, hposition, hend, hopen⟩ := ih h
      refine ⟨'\\' :: d :: before, rest, rfl, ?_, hend, fun hrest => ?_⟩
      · have hsize := Text.utf8Size_of_isAscii (isAscii_of_isEscapable hd)
        have hbackslash : '\\'.utf8Size = 1 := rfl
        rw [Text.byteLength, Text.byteLength, hsize, hbackslash, hposition]
        omega
      · rw [openBrackets_escape, List.cons_append, List.cons_append,
          checkFrom_escape pos st.stack st.quantifiable _ hd]
        exact hopen hrest
  | case6 => cases h; exact .here rfl
  | case7 pos st c s hascii hslash st' hstep ih =>
      have hascii : Text.isAscii c = true := by simpa using hascii
      have hturn := turn_of_reads (reads_of_step hascii hslash hstep)
      obtain ⟨before, rest, rfl, hposition, hend, hopen⟩ := ih h
      refine ⟨c :: before, rest, rfl, ?_, ?_, fun hrest => ?_⟩
      · rw [Text.byteLength, Text.utf8Size_of_isAscii hascii, hposition]
        omega
      · rwa [openBrackets_cons _ hslash, hturn]
      · -- more follows the character, so its step does not look at what that is
        have hempty : (before ++ rest).isEmpty = false := by simp [hrest]
        rw [hempty] at hstep
        rw [openBrackets_cons _ hslash, hturn, List.cons_append,
          checkFrom_cons pos _ hascii hslash (step_of_step hstep _)]
        exact hopen hrest
  | case8 pos st c s hascii hslash e' hstep =>
      cases h
      exact .here (position_of_step hstep)

/-- **A rejection points at the first offence**: its byte is in the source, or at its end if
a bracket is still open there and for no other reason; and what stands before a byte in the
source is in the dialect once the brackets that it leaves open are closed. -/
theorem offence_of_check
    {source : String}
    {e : DialectError}
    (h : check source = .error e) :
    e.position ≤ Text.byteLength source.toList ∧
      (e.position = Text.byteLength source.toList →
        e = .unbalancedBrackets e.position ∧ openBrackets [] source.toList ≠ []) ∧
      (e.position < Text.byteLength source.toList →
        ∃ before rest, source.toList = before ++ rest ∧ Text.byteLength before = e.position ∧
          check (String.ofList (before ++ closings (openBrackets [] before))) = .ok ()) := by
  obtain ⟨before, rest, hs, hposition, hend, hopen⟩ := offendsAt_of_checkFrom h
  rw [Nat.zero_add] at hposition
  rw [hs, Text.byteLength_append, hposition, ← hs]
  have hrest : rest = [] ↔ Text.byteLength rest = 0 :=
    ⟨fun h => h ▸ rfl, Text.eq_nil_of_byteLength_eq_zero⟩
  refine ⟨Nat.le_add_right _ _, fun heq => ?_, fun hlt => ?_⟩
  · rw [← hposition]
    exact hend (hrest.mpr (by omega))
  · refine ⟨before, rest, hs, rfl, ?_⟩
    rw [check, String.toList_ofList]
    exact hopen fun hnil => by rw [hrest.mp hnil] at hlt; omega

/-- An escape that the dialect does not have, behind a class in a class in a group. -/
theorem offence_of_check_nested :
    check "(a[[b](\\d" = .error (.unsupportedEscape 7) ∧
      ∃ before rest, "(a[[b](\\d".toList = before ++ rest ∧ Text.byteLength before = 7 ∧
        check (String.ofList (before ++ closings (openBrackets [] before))) = .ok () :=
  have h : check "(a[[b](\\d" = .error (.unsupportedEscape 7) := by decide +kernel
  ⟨h, (offence_of_check h).2.2 (by decide)⟩

end Regex
end FilterCompiler
