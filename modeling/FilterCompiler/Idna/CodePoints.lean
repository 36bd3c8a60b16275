import FilterCompiler.Text.Blank
import FilterCompiler.Text.Split

/-!
# Tables over code points

A table says something of ranges of code points. It is written as a text of words in hexadecimal:
`41-5A` is a range, `AA` a single code point, and a word that ends in a colon names the class of the
ranges after it. Reading sorts the rows, and a search halves them.
-/

namespace FilterCompiler
namespace Idna

/-- What a table says of one closed range of code points. -/
structure Row (α : Type) where
  first : Nat
  last : Nat
  value : α

/-- The value of a hexadecimal digit with capital letters. -/
def hexDigit (c : Char) : Nat :=
  if 'A' ≤ c then c.toNat - 55 else c.toNat - 48

/-- The value of a hexadecimal numeral. -/
def hexValue (s : List Char) : Nat :=
  s.foldl (fun n c => 16 * n + hexDigit c) 0

/-- The character that a hexadecimal numeral names. -/
def hexChar (s : List Char) : Char := Char.ofNat (hexValue s)

/-- The ends of a range. -/
def hexRange (s : List Char) : Nat × Nat :=
  match Text.breakAt? '-' s with
  | some (first, last) => (hexValue first, hexValue last)
  | none => (hexValue s, hexValue s)

/-- The row of a range. -/
def Row.ofRange {α : Type} (value : α) (s : List Char) : Row α :=
  { first := (hexRange s).1, last := (hexRange s).2, value }

/-- The rows of a list of words, the class of the first words being given. -/
def rowsFrom {α : Type} (classOf : List Char → α) (current : α) : List (List Char) → List (Row α)
  | [] => []
  | word :: words =>
      if Text.endsWithChar ':' word then rowsFrom classOf (classOf word.dropLast) words
      else Row.ofRange current word :: rowsFrom classOf current words

/-- Rows in ascending order; their ranges are apart. -/
structure Table (α : Type) where
  rows : Array (Row α)

namespace Table

variable {α : Type}

/-- The table of some rows. -/
def ofRows (rows : List (Row α)) : Table α :=
  { rows := (rows.mergeSort fun r s => r.first ≤ s.first).toArray }

/-- The table of a text whose ranges stand under names of classes. -/
def ofClasses (classOf : List Char → α) (start : α) (s : String) : Table α :=
  ofRows (rowsFrom classOf start (Text.words s.toList))

/-- The set of the code points in a text of ranges. -/
def ofRanges (s : String) : Table Unit :=
  ofRows ((Text.words s.toList).map (Row.ofRange ()))

/-- Searches the rows at the positions from `low` up to `high`, that one left out. -/
def searchBetween (t : Table α) (n low high : Nat) : Option (Row α) :=
  if _h : low < high then
    let middle := (low + high) / 2
    match t.rows[middle]? with
    | none => none
    | some row =>
        if n < row.first then searchBetween t n low middle
        else if row.last < n then searchBetween t n (middle + 1) high
        else some row
  else none
termination_by high - low
decreasing_by all_goals omega

/-- The row of a code point. -/
def row? (t : Table α) (n : Nat) : Option (Row α) := t.searchBetween n 0 t.rows.size

/-- What the table says of a character. -/
def find? (t : Table α) (c : Char) : Option α := (t.row? c.toNat).map Row.value

/-- The table says something of the character. -/
def contains (t : Table α) (c : Char) : Bool := (t.row? c.toNat).isSome

end Table
end Idna
end FilterCompiler
