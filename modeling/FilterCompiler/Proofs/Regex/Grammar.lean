import FilterCompiler.Regex.Dialect

/-!
# The grammar of the dialect

A regex source is a list of items between two optional anchors. An item is an
atom that a quantifier may follow; an atom is a character, an escape, a group
of items or a character class, and classes nest.

`Derives` is the grammar as it is written down.  `Items` and `ClassBody` are
its derivation trees with every list of items read from the left, and
`Source.text` is the source that a tree stands for.  The main result is that
both describe the same sources (`derives_source_iff`).
-/

namespace FilterCompiler
namespace Regex

/-! ## Characters -/

/-- The characters that do not stand for themselves outside of classes. -/
def signs : List Char :=
  ['\\', '(', ')', '[', ']', '^', '$', '|', '{', '}', '*', '+', '?']

/-- The character stands for itself outside of classes. -/
def isPlain (c : Char) : Bool :=
  Text.isAscii c && !signs.contains c

/-- The character stands for itself inside of a class. -/
def isClassPlain (c : Char) : Bool :=
  Text.isAscii c && c != '\\' && c != '[' && c != ']'

/-- How often an atom is to be matched. -/
inductive Quantifier where
  | star
  | plus
  | opt
deriving DecidableEq, Repr

/-- How the quantifier is written. -/
def Quantifier.char : Quantifier → Char
  | star => '*'
  | plus => '+'
  | opt => '?'

/-! ## Derivations -/

/-- The symbols of the grammar; the plural ones stand for lists. -/
inductive Symbol where
  | source
  | items
  | item
  | atom
  | charClass
  | classItems
  | classItem
deriving DecidableEq, Repr

/-- A sign that is there or not. -/
def optional (sign : Char) (isThere : Bool) : List Char :=
  if isThere then [sign] else []

/-- The grammar derives the text from the symbol. -/
inductive Derives : Symbol → List Char → Prop
  | source {s : List Char} (isAnchored isEnded : Bool) :
      Derives .items s →
      Derives .source (optional '^' isAnchored ++ s ++ optional '$' isEnded)
  | noItems : Derives .items []
  | moreItems {s t : List Char} :
      Derives .item s → Derives .items t → Derives .items (s ++ t)
  | once {s : List Char} : Derives .atom s → Derives .item s
  | quantified {s : List Char} (q : Quantifier) :
      Derives .atom s → Derives .item (s ++ [q.char])
  | plain {c : Char} : isPlain c = true → Derives .atom [c]
  | escape {e : Char} : isEscapable e = true → Derives .atom ['\\', e]
  | group {s : List Char} :
      Derives .items s → Derives .atom ('(' :: s ++ [')'])
  | atomClass {s : List Char} : Derives .charClass s → Derives .atom s
  | charClass {s : List Char} :
      Derives .classItems s → Derives .charClass ('[' :: s ++ [']'])
  | noClassItems : Derives .classItems []
  | moreClassItems {s t : List Char} :
      Derives .classItem s → Derives .classItems t →
      Derives .classItems (s ++ t)
  | classPlain {c : Char} : isClassPlain c = true → Derives .classItem [c]
  | classEscape {e : Char} :
      isEscapable e = true → Derives .classItem ['\\', e]
  | classNested {s : List Char} :
      Derives .charClass s → Derives .classItem s

/-! ## Trees -/

/-- What stands between the brackets of a class. -/
inductive ClassBody where
  | nil
  | plain (c : Char) (hc : isClassPlain c = true) (rest : ClassBody)
  | escape (e : Char) (he : isEscapable e = true) (rest : ClassBody)
  | nested (inner rest : ClassBody)

/-- A list of items: an atom, perhaps a quantifier, and the items after it. -/
inductive Items where
  | nil
  | plain (c : Char) (hc : isPlain c = true) (q : Option Quantifier)
      (rest : Items)
  | escape (e : Char) (he : isEscapable e = true) (q : Option Quantifier)
      (rest : Items)
  | group (inner : Items) (q : Option Quantifier) (rest : Items)
  | charClass (body : ClassBody) (q : Option Quantifier) (rest : Items)

/-- A whole source. -/
structure Source where
  isAnchored : Bool
  items : Items
  isEnded : Bool

/-- How an optional quantifier is written. -/
def quantifierText (q : Option Quantifier) : List Char :=
  (q.map Quantifier.char).toList

/-- The text of the inside of a class. -/
def ClassBody.text : ClassBody → List Char
  | nil => []
  | plain c _ rest => c :: rest.text
  | escape e _ rest => '\\' :: e :: rest.text
  | nested inner rest => '[' :: (inner.text ++ ']' :: rest.text)

/-- The text of a list of items. -/
def Items.text : Items → List Char
  | nil => []
  | plain c _ q rest => c :: (quantifierText q ++ rest.text)
  | escape e _ q rest => '\\' :: e :: (quantifierText q ++ rest.text)
  | group inner q rest =>
      '(' :: (inner.text ++ ')' :: (quantifierText q ++ rest.text))
  | charClass body q rest =>
      '[' :: (body.text ++ ']' :: (quantifierText q ++ rest.text))

/-- The text of a source. -/
def Source.text (t : Source) : List Char :=
  optional '^' t.isAnchored ++ t.items.text ++ optional '$' t.isEnded

/-! ## Trees and derivations -/

/-- An atom with or without a quantifier is an item. -/
theorem Derives.item_of_atom
    {s : List Char}
    (h : Derives .atom s)
    (q : Option Quantifier) :
    Derives .item (s ++ quantifierText q) := by
  cases q with
  | none => simpa [quantifierText] using h.once
  | some q => exact h.quantified q

/-- The inside of a class is derived from its symbol. -/
theorem ClassBody.derives (body : ClassBody) :
    Derives .classItems body.text := by
  induction body with
  | nil => exact .noClassItems
  | plain c hc rest ih => exact .moreClassItems (.classPlain hc) ih
  | escape e he rest ih => exact .moreClassItems (.classEscape he) ih
  | nested inner rest ihInner ihRest =>
      have h := Derives.moreClassItems
        (.classNested (.charClass ihInner)) ihRest
      simpa [ClassBody.text] using h

/-- A list of items is derived from its symbol. -/
theorem Items.derives (items : Items) :
    Derives .items items.text := by
  induction items with
  | nil => exact .noItems
  | plain c hc q rest ih =>
      exact .moreItems ((Derives.plain hc).item_of_atom q) ih
  | escape e he q rest ih =>
      exact .moreItems ((Derives.escape he).item_of_atom q) ih
  | group inner q rest ihInner ihRest =>
      have h := Derives.moreItems
        ((Derives.group ihInner).item_of_atom q) ihRest
      simpa [Items.text] using h
  | charClass body q rest ih =>
      have hclass := Derives.charClass body.derives
      have h := Derives.moreItems ((hclass.atomClass).item_of_atom q) ih
      simpa [Items.text] using h

/-- What a derivation from each symbol says in terms of trees: a symbol for one
piece of a list takes any list after it. -/
def HasTree : Symbol → List Char → Prop
  | .source, s => ∃ t : Source, t.text = s
  | .items, s => ∃ items : Items, items.text = s
  | .item, s => ∀ rest : Items, ∃ items : Items, items.text = s ++ rest.text
  | .atom, s =>
      ∀ (q : Option Quantifier) (rest : Items),
        ∃ items : Items, items.text = s ++ (quantifierText q ++ rest.text)
  | .charClass, s => ∃ body : ClassBody, '[' :: body.text ++ [']'] = s
  | .classItems, s => ∃ body : ClassBody, body.text = s
  | .classItem, s =>
      ∀ rest : ClassBody, ∃ body : ClassBody, body.text = s ++ rest.text

/-- Every derivation has a tree. -/
theorem Derives.hasTree
    {symbol : Symbol}
    {s : List Char}
    (d : Derives symbol s) :
    HasTree symbol s := by
  induction d with
  | source isAnchored isEnded _ ih =>
      obtain ⟨items, rfl⟩ := ih
      exact ⟨{ isAnchored, items, isEnded }, rfl⟩
  | noItems => exact ⟨.nil, rfl⟩
  | moreItems _ _ ihItem ihItems =>
      obtain ⟨rest, rfl⟩ := ihItems
      exact ihItem rest
  | once _ ih =>
      intro rest
      exact ih none rest
  | quantified q _ ih =>
      intro rest
      obtain ⟨items, hitems⟩ := ih (some q) rest
      exact ⟨items, by simp [hitems, quantifierText]⟩
  | @plain c hc =>
      intro q rest
      exact ⟨.plain c hc q rest, rfl⟩
  | @escape e he =>
      intro q rest
      exact ⟨.escape e he q rest, rfl⟩
  | group _ ih =>
      intro q rest
      obtain ⟨inner, rfl⟩ := ih
      exact ⟨.group inner q rest, by simp [Items.text]⟩
  | atomClass _ ih =>
      intro q rest
      obtain ⟨body, rfl⟩ := ih
      exact ⟨.charClass body q rest, by simp [Items.text]⟩
  | charClass _ ih =>
      obtain ⟨body, rfl⟩ := ih
      exact ⟨body, rfl⟩
  | noClassItems => exact ⟨.nil, rfl⟩
  | moreClassItems _ _ ihItem ihItems =>
      obtain ⟨rest, rfl⟩ := ihItems
      exact ihItem rest
  | @classPlain c hc =>
      intro rest
      exact ⟨.plain c hc rest, rfl⟩
  | @classEscape e he =>
      intro rest
      exact ⟨.escape e he rest, rfl⟩
  | classNested _ ih =>
      intro rest
      obtain ⟨inner, rfl⟩ := ih
      exact ⟨.nested inner rest, by simp [ClassBody.text]⟩

/-- **Trees and derivations describe the same sources.** -/
theorem derives_source_iff (s : List Char) :
    Derives .source s ↔ ∃ t : Source, t.text = s := by
  constructor
  · exact fun d => d.hasTree
  · rintro ⟨t, rfl⟩
    exact .source t.isAnchored t.isEnded t.items.derives

end Regex
end FilterCompiler
