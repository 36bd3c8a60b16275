import FilterCompiler.Pattern.Basic
import FilterCompiler.Regex.Dialect

/-!
# Errors of one line

Why a line is no rule. An error concerns its line only: the line is dropped and counted, and the
lines after it are read as if it were not there. Causes are told apart here, and their wording is in
`LineError.message`.
-/

namespace FilterCompiler

/-- Why an item of a domain list is refused. -/
inductive DomainFault where
  | empty
  | innerTilde
  | tooShort (domain : String)
  | isRegex
  | notEncodable (domain : String)
deriving DecidableEq, Repr

namespace DomainFault

/-- The wording of the fault. -/
def message : DomainFault → String
  | empty => "Empty domain"
  | innerTilde => "Unexpected tilde character"
  | tooShort domain => "Domain is too short: " ++ domain
  | isRegex => "Using regular expression for domain modifier is not supported"
  | notEncodable domain => "Invalid domain: " ++ domain

end DomainFault

/-- Why a text is no scriptlet call. -/
inductive ScriptletFault where
  | notCall
  | noName
  | brokenEscape
  | outsideQuotes
  | unclosedQuote
deriving DecidableEq, Repr

namespace ScriptletFault

/-- The wording of the fault. -/
def message : ScriptletFault → String
  | notCall => "Invalid scriptlet"
  | noName => "Invalid scriptlet params"
  | brokenEscape => "Invalid escape sequence in scriptlet arguments"
  | outsideQuotes => "Invalid scriptlet arguments string"
  | unclosedQuote => "Unmatched quotes in scriptlet arguments"

end ScriptletFault

/-- Why a line is no rule. -/
inductive LineError where
  /-- The line has fewer than three bytes. -/
  | shortLine
  /-- A network rule was expected and nothing is there. -/
  | emptyNetworkRule
  | hostNotEncodable (line : String)
  | unscopedSubdocument
  | noMarker
  | noContent
  | htmlRule
  | styleWithUrl
  | exceptionWithPath
  | scriptlet (fault : ScriptletFault)
  | domain (fault : DomainFault)
  /-- The option `domain` of a network rule has no value. -/
  | networkDomainMissing
  /-- The option `domain` of a cosmetic rule has no value. -/
  | cosmeticDomainMissing
  | pathMissing
  | unknownNetworkOption (name : String)
  | unknownCosmeticOption (name : String)
  | unsupportedType (name : String)
  | unexpectedValue (name : String)
  | exceptionOptionOnBlock
  | notOptionList
  | unclosedOptionList
  | denyallowNotPlain
  | tooWide
  /-- A pattern has a character beyond ASCII at this byte. -/
  | nonAsciiPattern (pos : Nat)
  | regex (error : Regex.DialectError)
deriving DecidableEq, Repr

/-- The families of errors, which the wording of an error names first. -/
inductive ErrorFamily where
  | rule
  | modifier
  | pattern
  | encoding
  | regex
deriving DecidableEq, Repr

namespace LineError

/-- The family of an error. -/
def family : LineError → ErrorFamily
  | shortLine | emptyNetworkRule | hostNotEncodable _ | unscopedSubdocument | noMarker | noContent
  | htmlRule | styleWithUrl | exceptionWithPath | scriptlet _ => .rule
  | domain _ | networkDomainMissing | cosmeticDomainMissing | pathMissing | unknownNetworkOption _
  | unknownCosmeticOption _ | unsupportedType _ | unexpectedValue _ | exceptionOptionOnBlock
  | notOptionList | unclosedOptionList | denyallowNotPlain => .modifier
  | tooWide => .pattern
  | nonAsciiPattern _ => .encoding
  | regex _ => .regex

/-- What is said of the cause, without the family. -/
def detail : LineError → String
  | shortLine => "The rule is too short"
  | emptyNetworkRule => "Rule is too short"
  | hostNotEncodable line => "Failed to encode the domain in " ++ line
  | unscopedSubdocument =>
      "$subdocument blocking rules are allowed only along with third-party or domain modifiers"
  | noMarker => "Not a cosmetic rule"
  | noContent => "Rule content is empty"
  | htmlRule => "Unsupported rule type"
  | styleWithUrl => "Forbidden style in a CSS rule"
  | exceptionWithPath => "Cosmetic exception rules with $path modifier are not supported"
  | scriptlet fault => fault.message
  | domain fault => fault.message
  | networkDomainMissing => "$domain cannot be empty"
  | cosmeticDomainMissing => "$domain modifier cannot be empty"
  | pathMissing => "$path modifier cannot be empty"
  | unknownNetworkOption name => "Unsupported modifier: " ++ name
  | unknownCosmeticOption name => "Unsupported modifier " ++ name
  | unsupportedType name => "$" ++ name ++ " is not supported"
  | unexpectedValue name => "Option " ++ name ++ " must not have value"
  | exceptionOptionOnBlock => "Blocking rule cannot use exception-only modifiers"
  | notOptionList => "Invalid cosmetic rule modifier"
  | unclosedOptionList => "Invalid option format"
  | denyallowNotPlain => "Negated or wildcard domains are not allowed in $denyallow"
  | tooWide =>
      "The rule is too wide, add domain restriction or make the pattern more specific"
  | nonAsciiPattern pos => Pattern.nonAsciiMessage pos
  | regex error => error.message

/-- The wording of an error. -/
def message (e : LineError) : String :=
  match e.family with
  | .rule => "Invalid rule: " ++ e.detail
  | .modifier => "Invalid modifier: " ++ e.detail
  | .pattern => "Invalid pattern: " ++ e.detail
  | .encoding => e.detail
  | .regex => "Unsupported regex: " ++ e.detail

end LineError
end FilterCompiler
