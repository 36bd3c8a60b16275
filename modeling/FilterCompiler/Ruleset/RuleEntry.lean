import FilterCompiler.Rule.Basic
import FilterCompiler.Ruleset.Entry

/-!
# From rules to entries

`Rule.toEntry` gives the entry of a rule and the group to which it belongs, or nothing if the host
has no counterpart. Groups are emitted in order, so an entry overrides the entries of the groups
before its own.
-/

namespace FilterCompiler

/-- The groups of entries, in the order in which they are emitted. -/
inductive EntryGroup where
  | genericHide
  | genericHideException
  | domainHide
  | elemhideException
  | blocking
  | exception
  | important
  | importantException
  | documentException
deriving DecidableEq, Repr

/-- The position of the group in the order of emission. -/
def EntryGroup.rank : EntryGroup → Nat
  | genericHide => 0
  | genericHideException => 1
  | domainHide => 2
  | elemhideException => 3
  | blocking => 4
  | exception => 5
  | important => 6
  | importantException => 7
  | documentException => 8

/-- An entry with its group. -/
structure GroupedEntry where
  group : EntryGroup
  entry : Entry
deriving DecidableEq, Repr

/-! ## Parts of triggers -/

/-- The name of the content type in a trigger; several types share one name. -/
def ContentType.resourceName : ContentType → String
  | image => "image"
  | stylesheet => "style-sheet"
  | script => "script"
  | media => "media"
  | xmlhttprequest | other | websocket => "raw"
  | font => "font"
  | document | subdocument => "document"
  | ping => "ping"

/-- The content types in the order of their positions. -/
def ContentType.list : List ContentType :=
  [image, stylesheet, script, media, xmlhttprequest, other, websocket, font, document, subdocument,
   ping]

/-- The names of the content types of a set, each once. -/
def ContentTypes.resourceNames (s : ContentTypes) : List String :=
  ((ContentType.list.filter s.has).map ContentType.resourceName).eraseDups

/-- How a trigger names a party. -/
def Party.loadName : Party → String
  | first => "first-party"
  | third => "third-party"

/-- How a trigger lists domains: in small letters and with their subdomains. -/
def domainItems? (domains : List String) : Option (List String) :=
  if domains.isEmpty then none else some (domains.map fun d => "*" ++ Domain.lower d)

/-- The trigger with the domains of a scope. A host that takes one kind of list only gets the
permitted domains if there are any. -/
def Trigger.withScope (t : Trigger) (scope : DomainScope) (version : HostVersion) : Trigger :=
  { t with
    ifDomain := domainItems? scope.permitted
    unlessDomain :=
      if scope.permitted.isEmpty || version.supportsMixedDomainScope then
        domainItems? scope.restricted
      else none }

/-! ## Network rules -/

namespace NetworkRule

/-- The options that make an exception one about whole pages. -/
def pageLevel : List PageOption :=
  [.document, .elemhide, .generichide, .specifichide, .urlblock, .genericblock]

/-- The regex of the rule; a rule without pattern matches every URL. -/
def urlFilter (rule : NetworkRule) : String := rule.regex.getD Pattern.matchAll

/-- Letter case counts only if the rule says so. -/
def caseFlag (rule : NetworkRule) : Option Bool := if rule.matchCase then some true else none

/-- The host on which a rule about pages acts, if the pattern names one and nothing else. -/
def pageHost? (rule : NetworkRule) : Option String :=
  match Pattern.splitHost? rule.pattern.toList with
  | none => none
  | some split =>
      if !split.hasPath && rule.header.scope.permitted.isEmpty then
        some (String.ofList split.host)
      else none

/-- The trigger of an exception about pages: every load on the host of the pattern if there is one,
else the pattern. -/
def pageTrigger (rule : NetworkRule) (version : HostVersion) : Trigger :=
  match rule.pageHost? with
  | some host =>
      { Trigger.ofFilter Pattern.matchAll with
        isCaseSensitive := rule.caseFlag
        ifDomain := some ["*" ++ Domain.lower host]
        unlessDomain :=
          if version.supportsMixedDomainScope then domainItems? rule.header.scope.restricted
          else none }
  | none =>
      { (Trigger.ofFilter rule.urlFilter).withScope rule.header.scope version with
        isCaseSensitive := rule.caseFlag }

/-- The group of an exception about pages. -/
def pageGroup (rule : NetworkRule) : EntryGroup :=
  if rule.options.has .document then .documentException
  else if rule.options.hasAny [.elemhide, .specifichide] then .elemhideException
  else if rule.options.has .generichide then .genericHideException
  else .exception

/-- The trigger of a rule about requests. -/
def requestTrigger (rule : NetworkRule) (version : HostVersion) : Trigger :=
  let types := rule.effectiveTypes
  { (Trigger.ofFilter rule.urlFilter).withScope rule.header.scope version with
    isCaseSensitive := rule.caseFlag
    resourceType := if types = .all then none else some types.resourceNames
    loadType := rule.party.map fun p => [p.loadName]
    loadContext := if types = ContentType.subdocument.only then some ["child-frame"] else none }

/-- The group of a rule about requests. -/
def requestGroup (rule : NetworkRule) : EntryGroup :=
  match rule.header.isException, rule.header.isImportant with
  | false, false => .blocking
  | false, true => .important
  | true, false => .exception
  | true, true => .importantException

/-- What the host does with requests to which the rule applies. -/
def requestAction (rule : NetworkRule) : ActionKind :=
  if rule.header.isException then .ignorePrevious else .block

/-- The entry of a network rule. -/
def toEntry (rule : NetworkRule) (version : HostVersion) : Option GroupedEntry :=
  if rule.options.has .popup then none
  else if rule.header.isException && rule.options.hasAny pageLevel then
    some
      { group := rule.pageGroup
        entry := { trigger := rule.pageTrigger version, action := .ofKind .ignorePrevious } }
  else if rule.options.hasAny exceptionOnly then none
  else if rule.effectiveTypes = .none then none
  else
    some
      { group := rule.requestGroup
        entry := { trigger := rule.requestTrigger version, action := .ofKind rule.requestAction } }

end NetworkRule

/-! ## Cosmetic rules -/

namespace CosmeticRule

/-- The host itself can execute the rule. -/
def isNative (rule : CosmeticRule) : Bool := rule.kind == .hiding && !rule.isExtended

/-- The trigger of a hiding rule. -/
def trigger (rule : CosmeticRule) (version : HostVersion) : Trigger :=
  let urlFilter := (rule.path.map PathCondition.regex).getD Pattern.matchAll
  (Trigger.ofFilter urlFilter).withScope rule.header.scope version

/-- The entry of a cosmetic rule. -/
def toEntry (rule : CosmeticRule) (version : HostVersion) : Option GroupedEntry :=
  if !rule.isNative || rule.header.isException then none
  else
    some
      { group := if rule.header.scope.permitted.isEmpty then .genericHide else .domainHide
        entry :=
          { trigger := rule.trigger version
            action := { kind := .hide, selector := some rule.content } } }

end CosmeticRule

/-- The entry of a rule and its group, if the host has a counterpart. -/
def Rule.toEntry (rule : Rule) (version : HostVersion) : Option GroupedEntry :=
  match rule with
  | network rule => rule.toEntry version
  | cosmetic rule => rule.toEntry version

end FilterCompiler
