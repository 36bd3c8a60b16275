import FilterCompiler.Rule.Header
import FilterCompiler.Rule.Marker
import FilterCompiler.Rule.Scriptlet
import FilterCompiler.Rule.Selector

/-!
# Cosmetic rules

A cosmetic rule hides elements of a page, restyles them or runs a script on it. Before its marker
stand the domains, either as a plain list or after a list of options in brackets.
-/

namespace FilterCompiler

/-- What a cosmetic rule does with its content. -/
inductive CosmeticKind where
  | hiding
  | style
  | script
deriving DecidableEq, Repr

/-- The kind of rule that a marker makes; markers of markup filters make none. -/
def Marker.kind? : Marker → Option CosmeticKind
  | hide | hideException | hideExtended | hideExtendedException => some .hiding
  | style | styleException | styleExtended | styleExtendedException => some .style
  | script | scriptException => some .script
  | html | htmlException => none

/-- On which paths of a site a rule applies. -/
structure PathCondition where
  /-- As it is written. -/
  source : String
  regex : String
deriving DecidableEq, Repr

/-- A rule about the content of pages. -/
structure CosmeticRule where
  header : Header
  /-- What stands after the marker. -/
  content : String
  kind : CosmeticKind
  /-- The rule needs the extended selector engine. -/
  isExtended : Bool
  /-- The content is a scriptlet call. -/
  isScriptlet : Bool
  path : Option PathCondition
deriving DecidableEq

/-! ## Options in brackets -/

/-- What one option in brackets says. -/
inductive PageCondition where
  | domains (scope : DomainScope)
  | path (condition : PathCondition)
deriving DecidableEq, Repr

namespace PageCondition

/-- Reads a path condition. -/
def ofPath (value : List Char) : Except LineError PageCondition :=
  if value.isEmpty then .error .pathMissing
  else
    match Pattern.compile (String.ofList value) with
    | .error pos => .error (.nonAsciiPattern pos)
    | .ok regex =>
        match Regex.check regex with
        | .error e => .error (.regex e)
        | .ok () => .ok (.path { source := String.ofList value, regex })

/-- Reads an option in brackets. -/
def parse [DomainEncoder] (option : List Char) : Except LineError PageCondition :=
  let (name, value) := Text.nameAndValue option
  match String.ofList name with
  | "domain" | "from" =>
      if value.isEmpty then .error .cosmeticDomainMissing
      else
        match DomainScope.ofList '|' value with
        | .ok scope => .ok (.domains scope)
        | .error fault => .error (.domain fault)
  | "path" => ofPath value
  | text => .error (.unknownCosmeticOption text)

/-- Reads the options in brackets, in order. -/
def parseAll [DomainEncoder] : List (List Char) → Except LineError (List PageCondition)
  | [] => .ok []
  | option :: options =>
      match parse option with
      | .error e => .error e
      | .ok condition =>
          match parseAll options with
          | .error e => .error e
          | .ok conditions => .ok (condition :: conditions)

end PageCondition

/-- Where a cosmetic rule applies. -/
structure PageScope where
  domains : DomainScope
  path : Option PathCondition
deriving DecidableEq, Repr

namespace PageScope

/-- Every page. -/
def everywhere : PageScope := { domains := .everywhere, path := none }

/-- The scope with one more condition; of several paths the last one counts. -/
def add (scope : PageScope) : PageCondition → PageScope
  | .domains more => { scope with domains := scope.domains ++ more }
  | .path condition => { scope with path := some condition }

/-- Adds a plain list of domains. -/
def addDomains [DomainEncoder] (scope : PageScope) (list : List Char) :
    Except LineError PageScope :=
  match DomainScope.ofList ',' list with
  | .ok domains => .ok { scope with domains := scope.domains ++ domains }
  | .error fault => .error (.domain fault)

/-- Reads a list of options and the plain list of domains after it. -/
def ofOptionList [DomainEncoder] (options list : List Char) : Except LineError PageScope :=
  match PageCondition.parseAll (Text.splitEscaped ',' options) with
  | .error e => .error e
  | .ok conditions =>
      let scope := conditions.foldl add everywhere
      if list.isEmpty then .ok scope else scope.addDomains list

/-- Reads what stands before a marker. -/
def parse [DomainEncoder] (text : List Char) : Except LineError PageScope :=
  match text with
  | [] | ['*'] => .ok everywhere
  | '[' :: '$' :: c :: s =>
      match Text.breakAtLast? ']' (c :: s) with
      | none => .error .unclosedOptionList
      | some (options, list) => ofOptionList options list
  | '[' :: _ => .error .notOptionList
  | list => everywhere.addDomains list

end PageScope

/-! ## Rules -/

namespace CosmeticRule

/-- A function that would load something into a style. -/
def loadFunction : List Char := "url(".toList

/-- The content is a call in a script rule, or the fault of a call that cannot be read. -/
def readCall (kind : CosmeticKind) (content : String) : Except LineError Bool :=
  if kind = .script ∧ Scriptlet.isCall content then
    match Scriptlet.parse content with
    | .ok _ => .ok true
    | .error fault => .error (.scriptlet fault)
  else .ok false

/-- Checks a rule as a whole. -/
def validate (rule : CosmeticRule) : Except LineError CosmeticRule :=
  if rule.kind = .style ∧ Text.occurs loadFunction rule.content.toList then .error .styleWithUrl
  else if rule.header.isException ∧ rule.path.isSome then .error .exceptionWithPath
  else .ok rule

/-- Reads a cosmetic rule whose line has been cut at its marker. -/
def ofCut [DomainEncoder] (version : HostVersion) (line : String) (cut : Marker.Cut) :
    Except LineError CosmeticRule :=
  if cut.content.isEmpty then .error .noContent
  else
    match cut.marker.kind? with
    | none => .error .htmlRule
    | some kind =>
        let content := String.ofList cut.content
        match readCall kind content with
        | .error e => .error e
        | .ok isScriptlet =>
            match PageScope.parse cut.domains with
            | .error e => .error e
            | .ok scope =>
                validate
                  { header :=
                      { text := line, isException := cut.marker.isException,
                        isImportant := false, scope := scope.domains }
                    content
                    kind
                    isExtended :=
                      cut.marker.isExtended || Selector.isExtended version cut.content
                    isScriptlet
                    path := scope.path }

/-- Reads a cosmetic rule. -/
def parse [DomainEncoder] (version : HostVersion) (line : String) : Except LineError CosmeticRule :=
  match Marker.find? line.toList with
  | none => .error .noMarker
  | some cut => ofCut version line cut

/-- The rule names no domain. -/
def isGeneric (rule : CosmeticRule) : Bool :=
  rule.header.scope.permitted.isEmpty && rule.header.scope.restricted.isEmpty

end CosmeticRule
end FilterCompiler
