import FilterCompiler.Json.Token

/-!
# JSON values

A JSON text is a sequence of tokens, and the tokens of one value. Writing lists the tokens of a
value. Reading runs through the tokens with a stack of the arrays and objects that are still open, so
it needs no more than one step for each token however deep the values nest.
-/

namespace FilterCompiler
namespace Json

/-- A JSON value. The keys of an object keep their order and may repeat. -/
inductive Value where
  | null
  | bool (value : Bool)
  | number (digits : List Char)
  | text (value : Option (List Char))
  | array (items : List Value)
  | object (fields : List (Option (List Char) × Value))

/-- The text value of a string. -/
def Value.ofString (s : String) : Value := .text (some s.toList)

/-! ## Writing -/

mutual

/-- The tokens of a value. -/
def Value.tokens : Value → List Token
  | .null => [.null]
  | .bool value => [.bool value]
  | .number digits => [.number digits]
  | .text value => [.text value]
  | .array items => .openArray :: (itemTokens items ++ [.closeArray])
  | .object fields => .openObject :: (fieldTokens fields ++ [.closeObject])

/-- The tokens of the items of an array. -/
def itemTokens : List Value → List Token
  | [] => []
  | [value] => value.tokens
  | value :: values => value.tokens ++ .comma :: itemTokens values

/-- The tokens of the fields of an object. -/
def fieldTokens : List (Option (List Char) × Value) → List Token
  | [] => []
  | [(key, value)] => .text key :: .colon :: value.tokens
  | (key, value) :: fields => .text key :: .colon :: (value.tokens ++ .comma :: fieldTokens fields)

end

/-- The compact text of a value. -/
def Value.chars (v : Value) : List Char := v.tokens.flatMap Token.chars

/-- The compact text of a value. -/
def Value.render (v : Value) : String := String.ofList v.chars

/-! ## Reading -/

/-- An array or object that is still open, its contents so far in reverse. -/
inductive Frame where
  | array (items : List Value)
  | object (fields : List (Option (List Char) × Value)) (key : Option (List Char))

/-- What the reader has read, and what may come next. -/
inductive Place where
  /-- A value has to come. -/
  | beforeValue (stack : List Frame)
  /-- An array has been opened. -/
  | arrayStart (stack : List Frame)
  /-- An object has been opened. -/
  | objectStart (stack : List Frame)
  /-- A key has to come. -/
  | beforeKey (fields : List (Option (List Char) × Value)) (stack : List Frame)
  /-- A colon has to come. -/
  | afterKey (fields : List (Option (List Char) × Value)) (key : Option (List Char))
      (stack : List Frame)
  /-- A value has been read. -/
  | afterValue (value : Value) (stack : List Frame)

namespace Place

/-- Goes on after a token where a value may begin. -/
def startValue (stack : List Frame) : Token → Option Place
  | .null => some (afterValue .null stack)
  | .bool value => some (afterValue (.bool value) stack)
  | .number digits => some (afterValue (.number digits) stack)
  | .text value => some (afterValue (.text value) stack)
  | .openArray => some (arrayStart stack)
  | .openObject => some (objectStart stack)
  | _ => none

/-- Goes on after a token that follows a value. -/
def endValue (value : Value) : List Frame → Token → Option Place
  | .array items :: stack, .comma => some (beforeValue (.array (value :: items) :: stack))
  | .array items :: stack, .closeArray =>
      some (afterValue (.array (value :: items).reverse) stack)
  | .object fields key :: stack, .comma => some (beforeKey ((key, value) :: fields) stack)
  | .object fields key :: stack, .closeObject =>
      some (afterValue (.object ((key, value) :: fields).reverse) stack)
  | _, _ => none

/-- Goes on after a token. -/
def step : Place → Token → Option Place
  | beforeValue stack, token => startValue stack token
  | arrayStart stack, .closeArray => some (afterValue (.array []) stack)
  | arrayStart stack, token => startValue (.array [] :: stack) token
  | objectStart stack, .closeObject => some (afterValue (.object []) stack)
  | objectStart stack, .text key => some (afterKey [] key stack)
  | beforeKey fields stack, .text key => some (afterKey fields key stack)
  | afterKey fields key stack, .colon => some (beforeValue (.object fields key :: stack))
  | afterValue value stack, token => endValue value stack token
  | _, _ => none

/-- Goes on after some tokens. -/
def run (place : Place) : List Token → Option Place
  | [] => some place
  | token :: tokens =>
      match place.step token with
      | some place => place.run tokens
      | none => none

end Place

/-- The value of some tokens, if they are the tokens of one value. -/
def Value.ofTokens? (tokens : List Token) : Option Value :=
  match (Place.beforeValue []).run tokens with
  | some (.afterValue value []) => some value
  | _ => none

/-- The value of a JSON text. -/
def Value.parse? (s : List Char) : Option Value :=
  match Token.ofText? s with
  | some tokens => Value.ofTokens? tokens
  | none => none

end Json
end FilterCompiler
