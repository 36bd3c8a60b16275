import FilterCompiler.Text.Split

/-!
# URL patterns

A URL pattern is literal text with four special signs: `||` at the start anchors it at a host, `|`
at an end anchors it there, `^` is a separator and `*` is anything. `toRegex` writes it as a regex
source of the host's dialect. A pattern between slashes is a regex already.
-/

namespace FilterCompiler
namespace Pattern

/-- The regex that every URL matches. -/
def matchAll : String := ".*"

/-- What `||` at the start stands for: any scheme and any number of labels in front of the host. -/
def hostAnchor : String := "^[^:]+://+([^:/]+\\.)?"

/-- What `^` stands for in the middle of a pattern. -/
def separator : String := "[/:&?]"

/-- What `^` stands for at the end of a pattern: a separator or the end of the URL. -/
def endSeparator : String := "[/:&?]?"

/-- What `^` stands for right after the host of a `||` pattern. -/
def hostSeparator : String := "[/:]"

/-- The characters, `.` apart, that are escaped and that end the host of a `||` pattern. -/
def isEscaped (c : Char) : Bool :=
  c ∈ ['+', '?', '$', '{', '}', '(', ')', '[', ']', '/', '\\']

/-- Puts `s` in front of a regex. -/
def emit (s : List Char) (regex : Except Nat (List Char)) : Except Nat (List Char) :=
  match regex with
  | .ok regex => .ok (s ++ regex)
  | .error pos => .error pos

/-- The regex of the rest of a pattern. `pos` counts the bytes before it, `inHost` says that only host
characters have been read since `||`. The error is the byte offset of a character beyond ASCII. -/
def regexFrom (pos : Nat) (inHost : Bool) : List Char → Except Nat (List Char)
  | [] => .ok []
  | c :: rest =>
      if c = '.' then emit ['\\', c] (regexFrom (pos + 1) inHost rest)
      else if isEscaped c then emit ['\\', c] (regexFrom (pos + 1) false rest)
      else if c = '|' then
        emit (if rest.isEmpty then ['$'] else ['\\', '|']) (regexFrom (pos + 1) inHost rest)
      else if c = '^' then
        if inHost then emit hostSeparator.toList (regexFrom (pos + 1) false rest)
        else
          emit (if rest.isEmpty then endSeparator.toList else separator.toList)
            (regexFrom (pos + 1) false rest)
      else if c = '*' then emit matchAll.toList (regexFrom (pos + 1) false rest)
      else if ¬ Text.isAscii c then .error pos
      else emit [c] (regexFrom (pos + 1) (inHost && c ≠ ':') rest)

/-- The regex of a pattern, the signs at its start included. -/
def regexOf : List Char → Except Nat (List Char)
  | '|' :: '|' :: rest => emit hostAnchor.toList (regexFrom 2 true rest)
  | '|' :: rest => emit ['^'] (regexFrom 1 false rest)
  | s => regexFrom 0 false s

/-- The regex source of a pattern, or the byte offset of its first character beyond ASCII. -/
def toRegex (pattern : String) : Except Nat String :=
  if pattern = "" ∨ pattern = "*" ∨ pattern = "|" ∨ pattern = "||" then .ok matchAll
  else (regexOf pattern.toList).map String.ofList

/-- What is said of a pattern with a character beyond ASCII at byte `pos`. -/
def nonAsciiMessage (pos : Nat) : String :=
  s!"Non ASCII characters are not supported (byte {pos})"

/-- The text between the slashes of a pattern that is written as a regex. -/
def literalRegex? (pattern : String) : Option String :=
  match pattern.toList with
  | '/' :: rest =>
      match Text.breakAtLast? '/' rest with
      | some (body, []) => if body.isEmpty then none else some (String.ofList body)
      | _ => none
  | _ => none

/-- The pattern is written as a regex. -/
def isLiteralRegex (pattern : String) : Bool := (literalRegex? pattern).isSome

/-- The regex source of a pattern, be it written as a regex or not. -/
def compile (pattern : String) : Except Nat String :=
  match literalRegex? pattern with
  | some body => .ok body
  | none => toRegex pattern

end Pattern
end FilterCompiler
