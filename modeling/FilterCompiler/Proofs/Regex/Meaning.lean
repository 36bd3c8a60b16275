import FilterCompiler.Proofs.Regex.Acceptance
import Mathlib.Computability.Language

/-!
# What a regex source matches

The dialect has the usual meaning: a dot is any character but a line feed, a
class is a set of characters with ranges and complements, and a source matches
a text if some part of the text is in its language, where an anchor asks that
nothing stands before or after that part.

The meaning is that of the derivation tree.  A source has one tree only
(`Source.text_injective`), so `Matches` does not depend on a choice.
-/

namespace FilterCompiler
namespace Regex

open Computability

/-! ## Classes -/

/-- What a class lists: a character, escaped or not, or the set of a class
inside of it. -/
inductive Member where
  | char (c : Char) (isEscaped : Bool)
  | set (has : Char → Bool)

/-- The character is listed.  A hyphen between two characters lists all from
the first to the second. -/
def isListed (d : Char) : List Member → Bool
  | [] => false
  | .char a _ :: .char '-' false :: .char b _ :: rest =>
      (decide (a ≤ d) && decide (d ≤ b)) || isListed d rest
  | .char a _ :: rest => a == d || isListed d rest
  | .set has :: rest => has d || isListed d rest

/-- The character is in the class of the members; `^` in front asks for the
characters that are not listed. -/
def isInClass (d : Char) : List Member → Bool
  | .char '^' false :: rest => !isListed d rest
  | members => isListed d members

/-- The members of a class. -/
def ClassBody.members : ClassBody → List Member
  | nil => []
  | plain c _ rest => .char c false :: rest.members
  | escape e _ rest => .char e true :: rest.members
  | nested inner rest => .set (isInClass · inner.members) :: rest.members

/-! ## Languages -/

/-- The texts of one character for which the test holds. -/
def oneOf (test : Char → Bool) : Language Char :=
  {u | ∃ c, test c = true ∧ u = [c]}

/-- What a plain character matches. -/
def isMatchOf (c d : Char) : Bool :=
  if c = '.' then d != '\n' else d == c

/-- The language of an atom with a quantifier. -/
def repeated (q : Option Quantifier) (atom : Language Char) : Language Char :=
  match q with
  | none => atom
  | some .star => atom∗
  | some .plus => atom * atom∗
  | some .opt => 1 + atom

/-- The language of a list of items. -/
def Items.lang : Items → Language Char
  | nil => 1
  | plain c _ q rest => repeated q (oneOf (isMatchOf c)) * rest.lang
  | escape e _ q rest => repeated q (oneOf (· == e)) * rest.lang
  | group inner q rest => repeated q inner.lang * rest.lang
  | charClass body q rest =>
      repeated q (oneOf (isInClass · body.members)) * rest.lang

/-- The source of the tree matches the text. -/
def Source.Matches (t : Source) (text : List Char) : Prop :=
  ∃ x y z, text = x ++ y ++ z ∧ y ∈ t.items.lang ∧
    (t.isAnchored = true → x = []) ∧ (t.isEnded = true → z = [])

/-- The source matches the text. -/
def Matches (source text : String) : Prop :=
  ∃ t : Source, t.text = source.toList ∧ t.Matches text.toList

/-! ## Languages of single characters -/

section OneOf

variable {test : Char → Bool} {u : List Char} {c : Char}

theorem mem_oneOf :
    u ∈ oneOf test ↔ ∃ c, test c = true ∧ u = [c] :=
  Iff.rfl

theorem mem_oneOf_eq :
    u ∈ oneOf (· == c) ↔ u = [c] := by
  simp [mem_oneOf]

/-- Repeating single characters gives the texts of such characters. -/
theorem mem_kstar_oneOf :
    u ∈ (oneOf test)∗ ↔ ∀ c ∈ u, test c = true := by
  rw [Language.mem_kstar]
  constructor
  · rintro ⟨pieces, rfl, hpieces⟩ c hc
    obtain ⟨piece, hpiece, hc⟩ := List.mem_flatten.mp hc
    obtain ⟨d, hd, rfl⟩ := hpieces piece hpiece
    obtain rfl : c = d := by simpa using hc
    exact hd
  · intro h
    refine ⟨u.map fun c => [c], ?_, ?_⟩
    · induction u with
      | nil => rfl
      | cons c u ih =>
          have hu := ih fun d hd => h d (List.mem_cons_of_mem c hd)
          rw [List.map_cons, List.flatten_cons, ← hu, List.singleton_append]
    · intro piece hpiece
      obtain ⟨c, hc, rfl⟩ := List.mem_map.mp hpiece
      exact ⟨c, h c hc, rfl⟩

/-- At least one character has to be there where `+` follows. -/
theorem mem_plus_oneOf :
    u ∈ oneOf test * (oneOf test)∗ ↔ u ≠ [] ∧ ∀ c ∈ u, test c = true := by
  rw [Language.mem_mul]
  constructor
  · rintro ⟨_, ⟨c, hc, rfl⟩, v, hv, rfl⟩
    rw [mem_kstar_oneOf] at hv
    simpa [hc] using hv
  · rintro ⟨hne, h⟩
    obtain ⟨c, v, rfl⟩ := List.exists_cons_of_ne_nil hne
    rw [List.forall_mem_cons] at h
    exact ⟨[c], ⟨c, h.1, rfl⟩, v, mem_kstar_oneOf.mpr h.2, rfl⟩

end OneOf

/-! ## One tree for each source -/

/-- How a piece of a source may begin. -/
inductive Start where
  | stop
  | plain
  | escape
  | group
  | charClass
deriving DecidableEq

/-- How the rest of a class begins. -/
def classStart : List Char → Start
  | '\\' :: _ => .escape
  | '[' :: _ => .charClass
  | ']' :: _ => .stop
  | _ :: _ => .plain
  | [] => .stop

/-- How the rest of a source begins. -/
def itemsStart : List Char → Start
  | '\\' :: _ => .escape
  | '(' :: _ => .group
  | '[' :: _ => .charClass
  | c :: _ => if isPlain c then .plain else .stop
  | [] => .stop

/-- How the inside of a class begins. -/
def ClassBody.start : ClassBody → Start
  | nil => .stop
  | plain .. => .plain
  | escape .. => .escape
  | nested .. => .charClass

/-- How a list of items begins. -/
def Items.start : Items → Start
  | nil => .stop
  | plain .. => .plain
  | escape .. => .escape
  | group .. => .group
  | charClass .. => .charClass

/-- The text may follow a list of items. -/
def Stops (s : List Char) : Prop :=
  itemsStart s = .stop ∧ ∀ q : Quantifier, s.head? ≠ some q.char

theorem classStart_text
    (body : ClassBody)
    (r : List Char) :
    classStart (body.text ++ ']' :: r) = body.start := by
  cases body with
  | nil => rfl
  | plain c hc rest =>
      simp only [isClassPlain, Bool.and_eq_true, bne_iff_ne] at hc
      simp [ClassBody.text, ClassBody.start, classStart, hc]
  | escape e he rest => rfl
  | nested inner rest => rfl

theorem itemsStart_text
    (items : Items)
    {r : List Char}
    (hr : Stops r) :
    itemsStart (items.text ++ r) = items.start := by
  cases items with
  | nil => exact hr.1
  | plain c hc q rest =>
      have hne : ∀ d ∈ signs, c ≠ d := fun d hd => ne_of_isPlain hc hd
      simp only [signs, List.forall_mem_cons] at hne
      simp [Items.text, Items.start, itemsStart, hc, hne]
  | escape e he q rest => rfl
  | group inner q rest => rfl
  | charClass body q rest => rfl

/-- Lists of items with the same text and end begin in the same way. -/
theorem Items.start_eq
    {items items' : Items}
    {r r' : List Char}
    (hr : Stops r)
    (hr' : Stops r')
    (h : items.text ++ r = items'.text ++ r') :
    items.start = items'.start := by
  rw [← itemsStart_text items hr, h, itemsStart_text items' hr']

theorem stops_closeGroup (s : List Char) : Stops (')' :: s) := by
  refine ⟨by simp [itemsStart, isPlain, signs], ?_⟩
  intro q
  cases q <;> simp [Quantifier.char]

theorem stops_endAnchor (isEnded : Bool) : Stops (optional '$' isEnded) := by
  cases isEnded with
  | false => simp [Stops, optional, itemsStart]
  | true =>
      refine ⟨by simp [optional, itemsStart, isPlain, signs], ?_⟩
      intro q
      cases q <;> simp [optional, Quantifier.char]

/-- The inside of a class ends at the bracket that closes it. -/
theorem ClassBody.text_append_inj
    {body body' : ClassBody}
    {r r' : List Char}
    (h : body.text ++ ']' :: r = body'.text ++ ']' :: r') :
    body = body' ∧ r = r' := by
  have hstart : body.start = body'.start := by
    rw [← classStart_text body r, h, classStart_text body' r']
  induction body generalizing body' r r' with
  | nil =>
      cases body' <;> simp [start] at hstart
      simpa [text] using h
  | plain c hc rest ih =>
      cases body' <;> simp [start] at hstart
      simp only [text, List.cons_append, List.cons.injEq] at h
      obtain ⟨rfl, h⟩ := h
      have hrest := ih h (by rw [← classStart_text, h, classStart_text])
      simp [hrest]
  | escape e he rest ih =>
      cases body' <;> simp [start] at hstart
      simp only [text, List.cons_append, List.cons.injEq, true_and] at h
      obtain ⟨rfl, h⟩ := h
      have hrest := ih h (by rw [← classStart_text, h, classStart_text])
      simp [hrest]
  | nested inner rest ihInner ihRest =>
      cases body' <;> simp [start] at hstart
      simp only [text, List.cons_append, List.append_assoc, List.cons.injEq,
        true_and] at h
      obtain ⟨rfl, h'⟩ :=
        ihInner h (by rw [← classStart_text, h, classStart_text])
      have hrest := ihRest h' (by rw [← classStart_text, h', classStart_text])
      simp [hrest]

/-- A list of items begins with no quantifier. -/
theorem head?_items_ne
    (items : Items)
    {r : List Char}
    (hr : Stops r)
    (q : Quantifier) :
    (items.text ++ r).head? ≠ some q.char := by
  cases items with
  | nil => exact hr.2 q
  | plain c hc q' rest =>
      have hq : q.char ∈ signs := by cases q <;> decide
      have hne := ne_of_isPlain hc hq
      simpa [Items.text] using hne
  | escape e he q' rest => cases q <;> simp [Items.text, Quantifier.char]
  | group inner q' rest => cases q <;> simp [Items.text, Quantifier.char]
  | charClass body q' rest => cases q <;> simp [Items.text, Quantifier.char]

/-- The quantifier of an atom is read back from what follows the atom. -/
theorem quantifierText_append_inj
    {q q' : Option Quantifier}
    {items items' : Items}
    {r r' : List Char}
    (hr : Stops r)
    (hr' : Stops r')
    (h : quantifierText q ++ (items.text ++ r) =
      quantifierText q' ++ (items'.text ++ r')) :
    q = q' ∧ items.text ++ r = items'.text ++ r' := by
  have hs := head?_items_ne items hr
  have hs' := head?_items_ne items' hr'
  cases q with
  | none =>
      cases q' with
      | none => exact ⟨rfl, h⟩
      | some q' =>
          replace h : items.text ++ r = q'.char :: (items'.text ++ r') := h
          exact absurd (by rw [h]; rfl) (hs q')
  | some q =>
      cases q' with
      | none =>
          replace h : q.char :: (items.text ++ r) = items'.text ++ r' := h
          exact absurd (by rw [← h]; rfl) (hs' q)
      | some q' =>
          obtain ⟨hq, h⟩ := List.cons.inj h
          refine ⟨?_, h⟩
          cases q <;> cases q' <;> simp_all [Quantifier.char]

/-- **A list of items is read back from its text and what stops it.** -/
theorem Items.text_append_inj
    {items items' : Items}
    {r r' : List Char}
    (hr : Stops r)
    (hr' : Stops r')
    (h : items.text ++ r = items'.text ++ r') :
    items = items' ∧ r = r' := by
  induction items generalizing items' r r' with
  | nil =>
      have hstart := start_eq hr hr' h
      cases items' <;> simp [start] at hstart
      exact ⟨rfl, h⟩
  | plain c hc q rest ih =>
      have hstart := start_eq hr hr' h
      cases items' <;> simp [start] at hstart
      simp only [text, List.cons_append, List.append_assoc, List.cons.injEq] at h
      obtain ⟨rfl, hq⟩ := h
      obtain ⟨rfl, hrest⟩ := quantifierText_append_inj hr hr' hq
      simp [ih hr hr' hrest]
  | escape e he q rest ih =>
      have hstart := start_eq hr hr' h
      cases items' <;> simp [start] at hstart
      simp only [text, List.cons_append, List.append_assoc, List.cons.injEq,
        true_and] at h
      obtain ⟨rfl, hq⟩ := h
      obtain ⟨rfl, hrest⟩ := quantifierText_append_inj hr hr' hq
      simp [ih hr hr' hrest]
  | group inner q rest ihInner ihRest =>
      have hstart := start_eq hr hr' h
      cases items' <;> simp [start] at hstart
      simp only [text, List.cons_append, List.append_assoc, List.cons.injEq,
        true_and] at h
      obtain ⟨rfl, hclose⟩ :=
        ihInner (stops_closeGroup _) (stops_closeGroup _) h
      obtain ⟨-, hq⟩ := List.cons.inj hclose
      obtain ⟨rfl, hrest⟩ := quantifierText_append_inj hr hr' hq
      simp [ihRest hr hr' hrest]
  | charClass body q rest ih =>
      have hstart := start_eq hr hr' h
      cases items' <;> simp [start] at hstart
      simp only [text, List.cons_append, List.append_assoc, List.cons.injEq,
        true_and] at h
      obtain ⟨rfl, hq⟩ := ClassBody.text_append_inj h
      obtain ⟨rfl, hrest⟩ := quantifierText_append_inj hr hr' hq
      simp [ih hr hr' hrest]

/-- No list of items begins with the anchor of a source. -/
theorem head?_items_ne_startAnchor
    (items : Items)
    (isEnded : Bool) :
    (items.text ++ optional '$' isEnded).head? ≠ some '^' := by
  cases items with
  | nil => cases isEnded <;> simp [Items.text, optional]
  | plain c hc q rest =>
      simpa [Items.text] using ne_of_isPlain hc (show '^' ∈ signs by decide)
  | escape e he q rest => simp [Items.text]
  | group inner q rest => simp [Items.text]
  | charClass body q rest => simp [Items.text]

/-- **A source has one tree.** -/
theorem Source.text_injective : Function.Injective Source.text := by
  rintro ⟨isAnchored, items, isEnded⟩ ⟨isAnchored', items', isEnded'⟩ h
  have hhead := head?_items_ne_startAnchor items isEnded
  have hhead' := head?_items_ne_startAnchor items' isEnded'
  have hanchor : isAnchored = isAnchored' := by
    cases isAnchored with
    | false =>
        cases isAnchored' with
        | false => rfl
        | true => exact absurd (congrArg List.head? h) hhead
    | true =>
        cases isAnchored' with
        | false => exact absurd (congrArg List.head? h).symm hhead'
        | true => rfl
  subst hanchor
  simp only [text, List.append_assoc, List.append_cancel_left_eq] at h
  obtain ⟨rfl, hend⟩ :=
    Items.text_append_inj (stops_endAnchor _) (stops_endAnchor _) h
  have : isEnded = isEnded' := by
    cases isEnded <;> cases isEnded' <;> simp_all [optional]
  subst this
  rfl

/-- A source matches what its tree matches. -/
theorem matches_iff_of_text
    {source : String}
    {t : Source}
    (h : t.text = source.toList)
    (text : String) :
    Matches source text ↔ t.Matches text.toList := by
  constructor
  · rintro ⟨t', ht', hmatch⟩
    obtain rfl : t' = t := Source.text_injective (ht'.trans h.symm)
    exact hmatch
  · intro hmatch
    exact ⟨t, h, hmatch⟩

end Regex
end FilterCompiler
