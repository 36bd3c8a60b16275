import FilterCompiler.Json.Record

/-!
# Entries of a ruleset

What the host executes is a list of entries, each with a trigger and an action. An entry is written
as compact JSON with its parts in a fixed order, and read back from any JSON that holds them.
-/

namespace FilterCompiler

/-- What the host does with a request or a page. -/
inductive ActionKind where
  | block
  | ignorePrevious
  | hide
deriving DecidableEq, Repr

namespace ActionKind

/-- The name of the kind in a ruleset. -/
def name : ActionKind → String
  | block => "block"
  | ignorePrevious => "ignore-previous-rules"
  | hide => "css-display-none"

/-- The kind of a name. -/
def ofName? (name : String) : Option ActionKind :=
  match name with
  | "block" => some block
  | "ignore-previous-rules" => some ignorePrevious
  | "css-display-none" => some hide
  | _ => none

end ActionKind

/-- When the host acts. Lists that are absent do not restrict. -/
structure Trigger where
  urlFilter : String
  isCaseSensitive : Option Bool
  ifDomain : Option (List String)
  unlessDomain : Option (List String)
  resourceType : Option (List String)
  loadType : Option (List String)
  loadContext : Option (List String)
deriving DecidableEq, Repr

namespace Trigger

/-- The trigger that looks at the URL only. -/
def ofFilter (urlFilter : String) : Trigger :=
  { urlFilter, isCaseSensitive := none, ifDomain := none, unlessDomain := none,
    resourceType := none, loadType := none, loadContext := none }

/-- The keys of the parts, in order. -/
def keys : List String :=
  ["url-filter", "url-filter-is-case-sensitive", "if-domain", "unless-domain", "resource-type",
   "load-type", "load-context"]

/-- The JSON value of a trigger. -/
def toValue (t : Trigger) : Json.Value :=
  .object
    (Json.field "url-filter" (some (.ofString t.urlFilter))
      ++ Json.field "url-filter-is-case-sensitive" (t.isCaseSensitive.map .bool)
      ++ Json.field "if-domain" (t.ifDomain.map Json.ofStrings)
      ++ Json.field "unless-domain" (t.unlessDomain.map Json.ofStrings)
      ++ Json.field "resource-type" (t.resourceType.map Json.ofStrings)
      ++ Json.field "load-type" (t.loadType.map Json.ofStrings)
      ++ Json.field "load-context" (t.loadContext.map Json.ofStrings))

/-- The trigger of its parts. -/
def ofParts? : Json.Parts → Option Trigger
  | [urlFilter, isCaseSensitive, ifDomain, unlessDomain, resourceType, loadType, loadContext] => do
      let texts? := Json.optional? (Json.list? Json.text?)
      return {
        urlFilter := ← Json.required? Json.text? urlFilter
        isCaseSensitive := ← Json.optional? Json.bool? isCaseSensitive
        ifDomain := ← texts? ifDomain
        unlessDomain := ← texts? unlessDomain
        resourceType := ← texts? resourceType
        loadType := ← texts? loadType
        loadContext := ← texts? loadContext }
  | _ => none

/-- The trigger of a JSON value. -/
def ofValue? (v : Json.Value) : Option Trigger := (Json.parts? keys 1 v).bind ofParts?

end Trigger

/-- What the host does; only hiding has a selector. -/
structure Action where
  kind : ActionKind
  selector : Option String
deriving DecidableEq, Repr

namespace Action

/-- The action of a kind without selector. -/
def ofKind (kind : ActionKind) : Action := { kind, selector := none }

/-- The keys of the parts, in order. -/
def keys : List String := ["type", "selector"]

/-- The JSON value of an action. -/
def toValue (a : Action) : Json.Value :=
  .object
    (Json.field "type" (some (.ofString a.kind.name))
      ++ Json.field "selector" (a.selector.map .ofString))

/-- The kind of a JSON value: its name, or an object whose only key is the name. -/
def kindOfValue? : Json.Value → Option ActionKind
  | .text (some name) => ActionKind.ofName? (String.ofList name)
  | .object [(some name, .null)] => ActionKind.ofName? (String.ofList name)
  | _ => none

/-- The action of its parts. -/
def ofParts? : Json.Parts → Option Action
  | [kind, selector] => do
      return {
        kind := ← Json.required? kindOfValue? kind
        selector := ← Json.optional? Json.text? selector }
  | _ => none

/-- The action of a JSON value. -/
def ofValue? (v : Json.Value) : Option Action := (Json.parts? keys 1 v).bind ofParts?

end Action

/-- One rule of the host. -/
structure Entry where
  trigger : Trigger
  action : Action
deriving DecidableEq, Repr

namespace Entry

/-- The keys of the parts, in order. -/
def keys : List String := ["trigger", "action"]

/-- The JSON value of an entry. -/
def toValue (e : Entry) : Json.Value :=
  .object
    (Json.field "trigger" (some e.trigger.toValue) ++ Json.field "action" (some e.action.toValue))

/-- The compact JSON text of an entry. -/
def text (e : Entry) : String := e.toValue.render

/-- The entry of its parts. -/
def ofParts? : Json.Parts → Option Entry
  | [trigger, action] => do
      return {
        trigger := ← Json.required? Trigger.ofValue? trigger
        action := ← Json.required? Action.ofValue? action }
  | _ => none

/-- The entry of a JSON value. -/
def ofValue? (v : Json.Value) : Option Entry := (Json.parts? keys 2 v).bind ofParts?

end Entry

namespace Ruleset

/-- The compact JSON text of a ruleset. -/
def text (entries : List Entry) : String :=
  "[" ++ String.intercalate "," (entries.map Entry.text) ++ "]"

/-- The entries of a ruleset that is given as JSON. -/
def parse? (s : String) : Option (List Entry) :=
  (Json.Value.parse? s.toList).bind (Json.list? Entry.ofValue?)

end Ruleset
end FilterCompiler
