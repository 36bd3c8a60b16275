import FilterCompiler.Json.Value

/-!
# Records in JSON

A record is written as an object with one field for each of its parts, and absent parts are left
out. It is read from such an object, whatever other keys it has, or from an array of its parts in
order. A key of the record may not repeat, and a part that may be absent may also be null.
-/

namespace FilterCompiler
namespace Json

/-- The parts of a record by position; a part that is not there is `none`. -/
abbrev Parts := List (Option Value)

/-- The values that a key has. -/
def valuesOf (key : String) (fields : List (Option (List Char) × Value)) : List Value :=
  fields.filterMap fun field => if field.1 = some key.toList then some field.2 else none

/-- The part of a key; no answer if the key repeats. -/
def partOf? (fields : List (Option (List Char) × Value)) (key : String) : Option (Option Value) :=
  match valuesOf key fields with
  | [] => some none
  | [value] => some (some value)
  | _ => none

/-- The parts of a record with the given keys, of which the first `required` have to be there. -/
def parts? (keys : List String) (required : Nat) : Value → Option Parts
  | .object fields =>
      if fields.all (·.1.isSome) then keys.mapM (partOf? fields) else none
  | .array items =>
      if required ≤ items.length ∧ items.length ≤ keys.length then
        some (items.map some ++ List.replicate (keys.length - items.length) none)
      else none
  | _ => none

/-- The text that a value is. -/
def text? : Value → Option String
  | .text (some s) => some (String.ofList s)
  | _ => none

/-- The truth value that a value is. -/
def bool? : Value → Option Bool
  | .bool b => some b
  | _ => none

/-- The list that a value is. -/
def list? {α : Type} (item? : Value → Option α) : Value → Option (List α)
  | .array items => items.mapM item?
  | _ => none

/-- A part that has to be there. -/
def required? {α : Type} (read? : Value → Option α) (part : Option Value) : Option α :=
  part.bind read?

/-- A part that may be absent or null. -/
def optional? {α : Type} (read? : Value → Option α) : Option Value → Option (Option α)
  | none | some .null => some none
  | some value => (read? value).map some

/-- The list of some texts. -/
def ofStrings (l : List String) : Value := .array (l.map Value.ofString)

/-- The field of a part, unless it is absent. -/
def field (key : String) (part : Option Value) : List (Option (List Char) × Value) :=
  match part with
  | none => []
  | some value => [(some key.toList, value)]

end Json
end FilterCompiler
