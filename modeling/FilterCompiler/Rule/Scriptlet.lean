import FilterCompiler.Rule.Error
import FilterCompiler.Text.Split

/-!
# Scriptlet calls

A scriptlet call such as `//scriptlet("name", "first", 'second')` names a prepared script and gives
it arguments. Each item stands in quotes of either kind. Inside quotes a backslash in front of the
quote or of another backslash is dropped; any other backslash stands for itself.
-/

namespace FilterCompiler

/-- A call of a prepared script. -/
structure Scriptlet where
  name : String
  args : List String
deriving DecidableEq, Repr

namespace Scriptlet

/-- How a call begins. -/
def lead : List Char := "//scriptlet(".toList

/-- The content of a script rule is a call. -/
def isCall (content : String) : Bool := Text.beginsWith lead content.toList

mutual

/-- Reads the items of a call from a place outside of quotes. -/
def readOutside : List Char → Except ScriptletFault (List (List Char))
  | [] => .ok []
  | c :: s =>
      if c = ',' ∨ c = ' ' then readOutside s
      else if c = '"' ∨ c = '\'' then readInside c [] s
      else .error .outsideQuotes

/-- Reads on inside quotes; `item` is what has been read since the quote, in reverse. -/
def readInside (quote : Char) (item : List Char) :
    List Char → Except ScriptletFault (List (List Char))
  | [] => .error .unclosedQuote
  | c :: s =>
      if c = quote then
        match readOutside s with
        | .ok items => .ok (item.reverse :: items)
        | .error fault => .error fault
      else if c = '\\' then
        match s with
        | [] => .error .brokenEscape
        | d :: s =>
            if d = quote ∨ d = '\\' then readInside quote (d :: item) s
            else readInside quote (d :: '\\' :: item) s
      else readInside quote (c :: item) s

end

/-- The items of a call: the text after its lead without the character that closes it. A last
character of several bytes is no such character and stays. -/
def body (call : List Char) : List Char :=
  match call.getLast? with
  | some c => if Text.isAscii c then call.dropLast else call
  | none => call

/-- Reads a call; its first item is the name and must not be empty. -/
def parse (content : String) : Except ScriptletFault Scriptlet :=
  match Text.dropLead? lead content.toList with
  | none | some [] => .error .notCall
  | some call =>
      match readOutside (body call) with
      | .error fault => .error fault
      | .ok [] | .ok ([] :: _) => .error .noName
      | .ok (name :: args) =>
          .ok { name := String.ofList name, args := args.map String.ofList }

end Scriptlet
end FilterCompiler
