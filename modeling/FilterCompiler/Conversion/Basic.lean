import FilterCompiler.Rule.Batch
import FilterCompiler.Ruleset.Assemble
import FilterCompiler.Ruleset.Resolve

/-!
# Conversion

A conversion reads lines, sets the rules that the host can execute apart from the extended ones,
resolves exceptions among the former and assembles a ruleset from them. It can be cancelled between
its stages, and then comes to nothing.
-/

namespace FilterCompiler

/-! ## Splitting the rules -/

namespace NetworkRule

/-- The options of exceptions that both the host and the extended engine have to know. -/
def sharedOptions : List PageOption := [.document, .elemhide, .generichide, .specifichide]

/-- The rule is an exception for the host and for the extended engine. -/
def isShared (rule : NetworkRule) : Bool :=
  rule.header.isException && rule.options.hasAny sharedOptions

/-- The rule is an exception for the extended engine only. -/
def isExtendedOnly (rule : NetworkRule) : Bool :=
  rule.header.isException && !rule.isShared && rule.options.has .jsinject

end NetworkRule

namespace Rule

/-- The host gets the rule. -/
def isBasic : Rule → Bool
  | network rule => !rule.isExtendedOnly
  | cosmetic rule => rule.isNative

/-- The extended engine gets the rule. -/
def isExtended : Rule → Bool
  | network rule => rule.isShared || rule.isExtendedOnly
  | cosmetic rule => !rule.isNative

end Rule

/-- The rules for the host and the rules for the extended engine. -/
def splitRules (rules : List Rule) : List Rule × List Rule :=
  (rules.filter Rule.isBasic, rules.filter Rule.isExtended)

/-! ## Conversions -/

/-- What a conversion is for. -/
structure ConversionOptions where
  version : HostVersion
  /-- The extended rules are wanted too. -/
  advanced : Bool
  /-- The greatest size of the ruleset in bytes. -/
  maxJsonSize : Option Nat
deriving DecidableEq, Repr

/-- What a conversion comes to. -/
structure Conversion where
  sourceLinesCount : Nat
  sourceRulesCount : Nat
  /-- The rules for the host before exceptions are resolved. -/
  compatibleRulesCount : Nat
  entriesCount : Nat
  extendedRulesCount : Nat
  discardedCount : Nat
  errorsCount : Nat
  json : String
  extendedText : Option String
deriving DecidableEq, Repr

namespace Conversion

/-- What a cancelled conversion comes to. -/
def empty : Conversion :=
  { sourceLinesCount := 0
    sourceRulesCount := 0
    compatibleRulesCount := 0
    entriesCount := 0
    extendedRulesCount := 0
    discardedCount := 0
    errorsCount := 0
    json := neutralRuleset
    extendedText := none }

/-- The texts of the extended rules, if they are wanted and there are any. -/
def extendedText? (options : ConversionOptions) (extended : List Rule) : Option String :=
  if options.advanced && !extended.isEmpty then
    some (String.intercalate "\n" (extended.map Rule.text))
  else none

/-- The limits of the host and of the caller. -/
def limits (options : ConversionOptions) : Assembled.Limits :=
  { entries := options.version.rulesLimit, bytes := options.maxJsonSize }

/-- Converts a batch of rules. -/
def ofBatch (options : ConversionOptions) (linesCount : Nat) (batch : RuleBatch) : Conversion :=
  let (basic, extended) := splitRules batch.rules
  let resolved := Resolved.ofRules options.version basic
  let assembled := Assembled.ofRules options.version (limits options) resolved.rules
  { sourceLinesCount := linesCount
    sourceRulesCount := batch.rules.length
    compatibleRulesCount := basic.length
    entriesCount := assembled.entriesCount
    extendedRulesCount := if options.advanced then extended.length else 0
    discardedCount := assembled.discardedCount
    errorsCount := batch.errors
    json := assembled.json
    extendedText := extendedText? options extended }

/-- Converts the lines of a filter list. -/
def ofLines [DomainEncoder] (options : ConversionOptions) (lines : List String) : Conversion :=
  ofBatch options lines.length (RuleBatch.ofLines options.version lines)

/-! ## Cancellation -/

/-- Whether the conversion is found cancelled before each of its stages. -/
structure Polls where
  /-- Before the lines are read. -/
  atStart : Bool
  /-- Before the ruleset is assembled. -/
  afterResolving : Bool
  /-- Before the result is handed out. -/
  afterAssembling : Bool
deriving DecidableEq, Repr

/-- A conversion that is cancelled from the start, or never. -/
def Polls.always (cancelled : Bool) : Polls :=
  { atStart := cancelled, afterResolving := cancelled, afterAssembling := cancelled }

/-- A conversion and the number of errors that it has counted. -/
structure Outcome where
  conversion : Conversion
  counted : Nat
deriving DecidableEq, Repr

/-- Converts lines unless a poll finds the conversion cancelled. Errors count as soon as the lines
have been read. -/
def run [DomainEncoder] (options : ConversionOptions) (polls : Polls) (lines : List String) :
    Outcome :=
  if polls.atStart then { conversion := empty, counted := 0 }
  else
    let batch := RuleBatch.ofLines options.version lines
    { conversion :=
        if polls.afterResolving || polls.afterAssembling then empty
        else ofBatch options lines.length batch
      counted := batch.errors }

end Conversion
end FilterCompiler
