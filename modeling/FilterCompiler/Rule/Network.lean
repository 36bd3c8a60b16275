import FilterCompiler.Host.Version
import FilterCompiler.Rule.Header
import FilterCompiler.Rule.Options

/-!
# Network rules

A network rule is a URL pattern and, after a `$`, options: whom it is about, and what it switches
off. `@@` in front makes it an exception. The options are read one by one as modifiers of a rule,
and the rule is checked as a whole at the end.
-/

namespace FilterCompiler

/-! ## The parts of a line -/

/-- A network line cut into its parts. -/
structure RuleParts where
  isException : Bool
  pattern : List Char
  options : Option (List Char)
deriving DecidableEq, Repr

/-- Cuts a text at its rightmost `$` that no backslash precedes and no slash follows, so that a `$`
at the end of a regex stays in it. `before` is the character in front of the text. -/
def cutOptions? (before : Option Char) : List Char → Option (List Char × List Char)
  | [] => none
  | c :: s =>
      match cutOptions? (some c) s with
      | some (pattern, options) => some (c :: pattern, options)
      | none =>
          if c = '$' ∧ before ≠ some '\\' ∧ s.head? ≠ some '/' then some ([], s) else none

/-- What stands after the sign of an exception, and whether the sign is there. -/
def cutException : List Char → Bool × List Char
  | '@' :: '@' :: s => (true, s)
  | s => (false, s)

/-- Cuts a network line into its parts. -/
def RuleParts.ofLine (line : List Char) : RuleParts :=
  let (isException, body) := cutException line
  match cutOptions? none body with
  | some (pattern, options) => { isException, pattern, options := some options }
  | none => { isException, pattern := body, options := none }

/-! ## Rules -/

/-- A rule about requests. -/
structure NetworkRule where
  header : Header
  /-- The URL pattern, its host in ASCII. -/
  pattern : String
  /-- The regex of the pattern, unless the pattern is empty. -/
  regex : Option String
  permitted : ContentTypes
  restricted : ContentTypes
  options : PageOptions
  party : Option Party
  matchCase : Bool
  /-- The rule takes other rules out of the list. -/
  isBadfilter : Bool
deriving DecidableEq

namespace NetworkRule

/-- The rule of a line before its options and its pattern are read. -/
def blank (text : String) (isException : Bool) : NetworkRule :=
  { header := { text, isException, isImportant := false, scope := .everywhere }
    pattern := ""
    regex := none
    permitted := .all
    restricted := .none
    options := .none
    party := none
    matchCase := false
    isBadfilter := false }

/-- The rule applies to requests of this type. -/
def appliesTo (rule : NetworkRule) (t : ContentType) : Bool :=
  rule.permitted.has t && !rule.restricted.has t

/-- The content types to which the rule applies. -/
def effectiveTypes (rule : NetworkRule) : ContentTypes := rule.permitted &&& ~~~rule.restricted

/-- The page options of the rule are exactly this one. -/
def hasOnly (rule : NetworkRule) (o : PageOption) : Bool := rule.options == o.only

/-- The rule switches everything off on a page. -/
def isDocumentException (rule : NetworkRule) : Bool :=
  rule.header.isException && rule.options.has .document

/-- The rule switches blocking off on a page and nothing else. -/
def isUrlBlock (rule : NetworkRule) : Bool := rule.hasOnly .urlblock || rule.hasOnly .genericblock

/-- The rule switches hiding off on a page and nothing else. -/
def isCssException (rule : NetworkRule) : Bool :=
  rule.hasOnly .elemhide || rule.hasOnly .generichide

/-- The rule switches script injection off on a page and nothing else. -/
def isJsInject (rule : NetworkRule) : Bool := rule.hasOnly .jsinject

/-- The pattern is written as a regex. -/
def isRegexRule (rule : NetworkRule) : Bool := Pattern.isLiteralRegex rule.pattern

end NetworkRule

/-! ## Options -/

/-- What one option changes in a rule. -/
inductive Modifier where
  /-- Nothing. -/
  | filler
  | matchCase (on : Bool)
  | important
  | badfilter
  | domains (scope : DomainScope)
  | party (p : Party)
  | page (o : PageOption)
  | contentType (t : ContentType) (negated : Bool)
deriving DecidableEq, Repr

namespace Modifier

/-- The content type that an option names, or the error of an option that nothing else names. -/
def ofTypeName (version : HostVersion) (name : List Char) : Except LineError Modifier :=
  let (negated, typeName) := Text.cutTilde name
  match ContentType.ofName? (String.ofList typeName) with
  | none => .error (.unknownNetworkOption (String.ofList name))
  | some t =>
      if t = .ping ∧ ¬ version.supportsPing then .error (.unsupportedType (String.ofList name))
      else .ok (.contentType t negated)

/-- What an option without value changes. -/
def ofName (version : HostVersion) (name : List Char) : Except LineError Modifier :=
  match String.ofList name with
  | "all" => .ok .filler
  | "match-case" => .ok (.matchCase true)
  | "~match-case" => .ok (.matchCase false)
  | "important" => .ok .important
  | "badfilter" => .ok .badfilter
  | text =>
      match Party.ofName? text, PageOption.ofName? text with
      | some p, _ => .ok (.party p)
      | none, some o => .ok (.page o)
      | none, none => ofTypeName version name

/-- The name is one of a list of domains. -/
def isDomainName (name : List Char) : Bool :=
  String.ofList name == "domain" || String.ofList name == "from"

/-- The name consists of underscores, so that the option only fills space. -/
def isFiller (name : List Char) : Bool := !name.isEmpty && name.all (· == '_')

/-- Reads an option of a network rule. -/
def parse [DomainEncoder] (version : HostVersion) (option : List Char) :
    Except LineError Modifier :=
  let (name, value) := Text.nameAndValue option
  if isFiller name then .ok .filler
  else if isDomainName name then
    if value.isEmpty then .error .networkDomainMissing
    else
      match DomainScope.ofList '|' value with
      | .ok scope => .ok (.domains scope)
      | .error fault => .error (.domain fault)
  else
    match ofName version name with
    | .error e => .error e
    | .ok m =>
        if value.isEmpty then .ok m else .error (.unexpectedValue (String.ofList name))

/-- Permits one more content type; the first one takes the place of the set of all. -/
def permitType (s : ContentTypes) (t : ContentType) : ContentTypes :=
  (if s = .all then .none else s) ||| t.only

/-- Changes a rule. -/
def apply (m : Modifier) (rule : NetworkRule) : NetworkRule :=
  match m with
  | filler => rule
  | matchCase on => { rule with matchCase := on }
  | important => { rule with header := { rule.header with isImportant := true } }
  | badfilter => { rule with isBadfilter := true }
  | domains scope =>
      { rule with header := { rule.header with scope := rule.header.scope ++ scope } }
  | party p => { rule with party := some p }
  | page o => { rule with options := rule.options ||| o.only }
  | contentType t true => { rule with restricted := rule.restricted ||| t.only }
  | contentType t false => { rule with permitted := permitType rule.permitted t }

/-- Reads the options of a rule, in order. -/
def parseAll [DomainEncoder] (version : HostVersion) :
    List (List Char) → Except LineError (List Modifier)
  | [] => .ok []
  | option :: options =>
      match parse version option with
      | .error e => .error e
      | .ok m =>
          match parseAll version options with
          | .error e => .error e
          | .ok ms => .ok (m :: ms)

end Modifier

namespace NetworkRule

/-- Changes a rule by modifiers, in order. -/
def modify (rule : NetworkRule) (ms : List Modifier) : NetworkRule :=
  ms.foldl (fun rule m => m.apply rule) rule

/-- A rule about whole documents has the content type of documents, unless it is about frames. -/
def narrowToDocuments (rule : NetworkRule) : NetworkRule :=
  if rule.options.hasAny documentLevel ∧ rule.permitted ≠ ContentType.subdocument.only then
    { rule with permitted := ContentType.document.only }
  else rule

/-- The texts of the options, if there are any. -/
def optionTexts (options : Option (List Char)) : List (List Char) :=
  match options with
  | none | some [] => []
  | some options => Text.splitEscaped ',' options

/-! ## The pattern and the checks -/

/-- Sets the pattern of a rule and its regex. -/
def withPattern [DomainEncoder] (rule : NetworkRule) (pattern : String) :
    Except LineError NetworkRule :=
  match Pattern.literalRegex? pattern with
  | some body => .ok { rule with pattern, regex := some body }
  | none =>
      match Pattern.encodeHost pattern with
      | none => .error (.hostNotEncodable rule.header.text)
      | some pattern =>
          if pattern = "" then .ok { rule with pattern, regex := none }
          else
            match Pattern.toRegex pattern with
            | .ok regex => .ok { rule with pattern, regex := some regex }
            | .error pos => .error (.nonAsciiPattern pos)

/-- The pattern says too little for a rule that applies on all domains. -/
def isTooWide (rule : NetworkRule) : Bool :=
  decide (Text.byteLength rule.pattern.toList < 3) && rule.header.scope.permitted.isEmpty

/-- A blocking rule about frames that an old host would apply too widely. -/
def lacksFrameScope (rule : NetworkRule) (version : HostVersion) : Bool :=
  version.requiresSubdocumentScope && !rule.header.isException && rule.permitted != .all
    && rule.appliesTo .subdocument && rule.party != some .third
    && rule.header.scope.permitted.isEmpty

/-- The regex of the rule is in the host's dialect. -/
def checkRegex (rule : NetworkRule) : Except LineError Unit :=
  match rule.regex with
  | none => .ok ()
  | some regex =>
      match Regex.check regex with
      | .ok () => .ok ()
      | .error e => .error (.regex e)

/-- Checks a rule as a whole. -/
def validate (rule : NetworkRule) (version : HostVersion) : Except LineError NetworkRule :=
  if rule.isTooWide then .error .tooWide
  else
    match rule.checkRegex with
    | .error e => .error e
    | .ok () =>
        if !rule.header.isException && rule.options.hasAny exceptionOnly then
          .error .exceptionOptionOnBlock
        else if rule.lacksFrameScope version then .error .unscopedSubdocument
        else .ok rule

/-- Reads a network rule. -/
def parse [DomainEncoder] (version : HostVersion) (line : String) : Except LineError NetworkRule :=
  if line = "" then .error .emptyNetworkRule
  else
    let parts := RuleParts.ofLine line.toList
    match Modifier.parseAll version (optionTexts parts.options) with
    | .error e => .error e
    | .ok ms =>
        let rule := ((blank line parts.isException).modify ms).narrowToDocuments
        match rule.withPattern (String.ofList parts.pattern) with
        | .error e => .error e
        | .ok rule => rule.validate version

/-! ## Taking rules out -/

/-- The lists are both empty or share a domain. -/
def sharesDomain (first second : List String) : Bool :=
  (first.isEmpty && second.isEmpty) || first.any (second.contains ·)

/-- The rule, as a badfilter rule, takes the other rule out of the list. -/
def negates (kill target : NetworkRule) : Bool :=
  kill.header.isException == target.header.isException
    && kill.pattern == target.pattern
    && kill.permitted == target.permitted
    && kill.restricted == target.restricted
    && kill.options == target.options
    && kill.header.scope.restricted == target.header.scope.restricted
    && sharesDomain kill.header.scope.permitted target.header.scope.permitted

end NetworkRule
end FilterCompiler
