import FilterCompiler.Rule.Marker
import FilterCompiler.Rule.Network
import FilterCompiler.Text.Blank

/-!
# Canonical form

Filter lists come in several dialects. Before a line is read it is turned into lines of one
dialect:

* `example.com##+js(name, arg)` becomes a scriptlet call,
* `example.com#$#snippet arg; other` becomes one scriptlet call for each statement,
* `example.com##.ad:style(color: red)` becomes a style rule,
* `||ads$denyallow=a.com|b.com,domain=x.com` becomes the rule without that option and, for each of
  its domains, rules of the opposite polarity.

Every other line stays as it is.
-/

namespace FilterCompiler
namespace Canonical

/-! ## Scriptlet calls -/

/-- The text with a backslash in front of every double quote. -/
def escapeQuotes (s : List Char) : List Char := Text.replaceAll ['"'] ['\\', '"'] s

/-- The text stands between two of these quotes. -/
def isQuotedBy (quote : Char) (s : List Char) : Bool :=
  s.head? == some quote && Text.endsWithChar quote s

/-- What an argument says: the text inside its quotes, if it is in quotes. -/
def unquote (arg : List Char) : List Char :=
  if Text.byteLength arg ≤ 1 then escapeQuotes arg
  else if isQuotedBy '\'' arg then escapeQuotes (Text.trimChar '\'' arg)
  else if isQuotedBy '"' arg then Text.trimChar '"' arg
  else arg

/-- An argument in double quotes. -/
def quoteArg (arg : List Char) : List Char := '"' :: unquote arg ++ ['"']

/-- The arguments of a call in double quotes, its name marked by the dialect it comes from. -/
def quoteArgs (dialect : List Char) : List (List Char) → List (List Char)
  | [] => []
  | name :: args => quoteArg (dialect ++ name) :: args.map quoteArg

/-- The marker of script rules of the polarity of another marker. -/
def scriptMarker (marker : Marker) : Marker :=
  if marker.isException then .scriptException else .script

/-- The script rule that takes the place of a line, with these arguments in quotes. -/
def callLine (cut : Marker.Cut) (args : List (List Char)) : List Char :=
  cut.rebuild (scriptMarker cut.marker)
    ("//scriptlet(".toList ++ Text.joinWith [',', ' '] args ++ [')'])

/-- How the names of calls of the first dialect are marked. -/
def callLead : List Char := "ubo-".toList

/-- How the content of a call of the first dialect begins. -/
def callSign : List Char := "+js".toList

/-- The items of a call: they stand between commas and spaces, or if there are none between commas. -/
def callItems (items : List Char) : List (List Char) :=
  if Text.occurs [',', ' '] items then Text.splitOnPair ',' ' ' items else Text.splitOn ',' items

/-- What stands between the first parenthesis that opens and the last one that closes. -/
def betweenParentheses (line : List Char) : List Char :=
  match Text.breakAt? '(' line with
  | none => []
  | some (_, rest) => ((Text.breakAtLast? ')' rest).map Prod.fst).getD []

/-- The line of a call of the first dialect; a call without items is dropped. -/
def ofCall (line : List Char) (cut : Marker.Cut) : List (List Char) :=
  match betweenParentheses line with
  | [] => []
  | items => [callLine cut (quoteArgs callLead (callItems items))]

/-! ## Snippets -/

/-- How the names of calls of the second dialect are marked. -/
def snippetLead : List Char := "abp-".toList

/-- The text inside a quote that opens in front of `s`, and what stands after the quote that closes
it; both are on one line. -/
def closeQuote? (quote : Char) (s : List Char) : Option (List Char × List Char) :=
  match Text.breakAt? quote s with
  | none => none
  | some (inner, rest) => if '\n' ∈ inner then none else some (inner, rest)

theorem length_closeQuote?_lt {quote : Char} {s : List Char} {p : List Char × List Char}
    (h : closeQuote? quote s = some p) : p.2.length < s.length := by
  unfold closeQuote? at h
  split at h
  · simp at h
  · next hb =>
    split at h
    · simp at h
    · cases h
      rw [Text.breakAt?_eq_some hb]
      simp
      omega

theorem length_dropWhile_le {p : Char → Bool} (s : List Char) :
    (s.dropWhile p).length ≤ s.length := by
  induction s with
  | nil => simp
  | cons c s ih =>
    simp only [List.dropWhile_cons]
    split
    · simp; omega
    · simp

/-- The arguments of a statement: texts in quotes and runs without blanks. -/
def snippetArgs : List Char → List (List Char)
  | [] => []
  | c :: s =>
      if Text.isBlank c then snippetArgs s
      else
        match _h : if c = '\'' ∨ c = '"' then closeQuote? c s else none with
        | some (inner, rest) => (c :: inner ++ [c]) :: snippetArgs rest
        | none => (c :: s.takeWhile (!Text.isBlank ·)) :: snippetArgs (s.dropWhile (!Text.isBlank ·))
termination_by s => s.length
decreasing_by
  · simp
  · split at _h
    · have := length_closeQuote?_lt _h
      simp at this ⊢
      omega
    · simp at _h
  · have := length_dropWhile_le (p := fun c => !Text.isBlank c) s
    simp at this ⊢
    omega

/-- The lines of the statements of a snippet rule. -/
def ofSnippet (cut : Marker.Cut) : List (List Char) :=
  (Text.splitOnPair ';' ' ' cut.content).map fun statement =>
    callLine cut (quoteArgs snippetLead (snippetArgs statement))

/-- The text in front of a brace is a selector: something on one line, and blanks. -/
def opensBlock (s : List Char) : Bool :=
  match Text.trimEnd s with
  | [] => s.head?.any (· != '\n')
  | selector => !selector.contains '\n'

/-- The text after a brace ends the block: declarations on one line, a brace, and blanks. -/
def closesBlock (s : List Char) : Bool :=
  match (Text.trimEnd s).reverse with
  | '\x7d' :: declarations => !declarations.contains '\n'
  | _ => false

/-- The text is a style block, `before` being what precedes it in reverse. -/
def isBlockFrom (before : List Char) : List Char → Bool
  | [] => false
  | c :: s =>
      (c == '\x7b' && opensBlock before.reverse && closesBlock s) || isBlockFrom (c :: before) s

/-- A style block follows a style marker somewhere in the text. -/
def holdsBlock : List Char → Bool
  | [] => false
  | c :: s =>
      (match Marker.atStart? (c :: s) with
        | some (.style, rest) | some (.styleException, rest) => isBlockFrom [] rest
        | _ => false) || holdsBlock s

/-! ## Styles -/

/-- What introduces the declarations of a style in the first dialect. -/
def styleSign : List Char := ":style(".toList

/-- The line of a style of the first dialect. -/
def ofStyle (cut : Marker.Cut) : List Char :=
  let marker := if cut.marker.isException then Marker.styleException else Marker.style
  (cut.rebuild marker (Text.replaceAll styleSign [' ', '\x7b', ' '] cut.content)).dropLast
    ++ [' ', '\x7d']

/-! ## Domains that a rule leaves alone -/

/-- The option that lists the domains a rule leaves alone. -/
def denyallowSign : List Char := "denyallow=".toList

/-- The option that lists the domains of a rule. -/
def domainSign : List Char := "domain=".toList

/-- The path of a pattern: after the host of a `||` pattern, else all but a slash in front. -/
def patternPath (pattern : List Char) : List Char :=
  match pattern with
  | '|' :: '|' :: rest => ((Text.breakAt? '/' rest).map Prod.snd).getD []
  | '/' :: rest => rest
  | rest => rest

/-- The pattern is anchored at the start of the URL. -/
def isAnchored (pattern : List Char) : Bool :=
  Text.beginsWith ['|'] pattern && !Text.beginsWith ['|', '|'] pattern

/-- The lines of opposite polarity for one domain. -/
def domainLines (isException : Bool) (path options domain : List Char) : List (List Char) :=
  let lead := if isException then "||".toList else "@@||".toList
  let trail := if isException then ",important".toList else []
  let line := fun target => lead ++ target ++ ['$'] ++ options ++ trail
  if path = [] ∨ path = ['*'] then [line domain]
  else [line (domain ++ ['/'] ++ path), line (domain ++ ['/', '*', '/'] ++ path)]

/-- The domains of an item that lists domains to leave alone. -/
def denyallowDomains (item : List Char) : List (List Char) :=
  Text.splitOn '|' (Text.removeFirst denyallowSign item)

/-- The lines of a rule given by its parts, one of whose options lists domains to leave alone. -/
def ofDenyallow (parts : RuleParts) (options : List (List Char)) (item : List Char) :
    Except LineError (List (List Char)) :=
  let domains := denyallowDomains item
  if domains.any fun d => Text.beginsWith ['~'] d || d.contains '*' then .error .denyallowNotPlain
  else
    let remaining := Text.joinWith [','] (options.filter (· ≠ item))
    let lead := if parts.isException then "@@".toList else []
    .ok ((lead ++ parts.pattern ++ ['$'] ++ remaining) ::
      domains.flatMap (domainLines parts.isException (patternPath parts.pattern) remaining))

/-- The canonical lines of a line without marker. -/
def ofNetworkLine (line : List Char) : Except LineError (List (List Char)) :=
  if ¬ Text.occurs denyallowSign line then .ok [line]
  else
    let parts := RuleParts.ofLine line
    match parts.options with
    | none => .ok [line]
    | some options =>
        if isAnchored parts.pattern ∨ ¬ Text.occurs domainSign options then .ok [line]
        else
          match (Text.splitOn ',' options).find? (Text.occurs denyallowSign ·) with
          | none => .ok [line]
          | some item => ofDenyallow parts (Text.splitOn ',' options) item

/-! ## Lines -/

/-- The canonical lines of a line that has been cut at its marker. -/
def ofCut (line : List Char) (cut : Marker.Cut) : List (List Char) :=
  match cut.marker with
  | .hide | .hideException =>
      if Text.beginsWith callSign cut.content then ofCall line cut
      else if Text.occurs styleSign line then [ofStyle cut]
      else [line]
  | .style | .styleException =>
      if holdsBlock (cut.marker.text.toList ++ cut.content) then [line] else ofSnippet cut
  | _ => [line]

/-- The lines in canonical form that take the place of a line. -/
def ofChars (line : List Char) : Except LineError (List (List Char)) :=
  match Marker.find? line with
  | some cut => .ok (ofCut line cut)
  | none => ofNetworkLine line

/-- The lines in canonical form that take the place of a line. -/
def lines (line : String) : Except LineError (List String) :=
  (ofChars line.toList).map fun canonical => canonical.map String.ofList

end Canonical
end FilterCompiler
