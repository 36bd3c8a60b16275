import FilterCompiler.Conversion.Lanes
import FilterCompiler.Text.Blank
import FilterCompiler.Text.Split

/-!
# Arguments

The words after the program's name say what to do. Options are flags or take a value, which follows
as the next word, behind `=` or right behind a short name. Words that do not fit are refused as a
whole, and nothing is done.
-/

namespace FilterCompiler

/-- What `compile` is asked to do. -/
structure CompileJob where
  inputs : List String
  output : String
  options : ConversionOptions
  lanes : Lanes.Config
  rulesetIds : List String
  /-- The domains on which blocking is switched off. -/
  allow : List String
  /-- The domains on which alone blocking stays on. -/
  only : List String
  reloadCommand : Option String
  useCache : Bool
deriving DecidableEq, Repr

/-- What `disable` is asked to do. -/
structure DisableJob where
  output : String
  rulesetIds : List String
  reloadCommand : Option String
deriving DecidableEq, Repr

/-- What the program is asked to do. -/
inductive Command where
  | compile (job : CompileJob)
  | validate (input : String) (version : HostVersion)
  | disable (job : DisableJob)
deriving DecidableEq, Repr

/-- What the program is asked to do, and whether to say more about it. -/
structure Invocation where
  command : Command
  verbose : Bool
deriving DecidableEq, Repr

namespace Arguments

/-! ## Options -/

/-- An option that a command has. -/
structure OptionSpec where
  name : String
  short : Option Char
  takesValue : Bool
  /-- The option may be given more than once. -/
  repeats : Bool
deriving DecidableEq, Repr

/-- A flag. -/
def flag (name : String) : OptionSpec := { name, short := none, takesValue := false, repeats := false }

/-- An option with one value. -/
def single (name : String) : OptionSpec := { name, short := none, takesValue := true, repeats := false }

/-- An option with a value for each time it is given. -/
def many (name : String) : OptionSpec := { name, short := none, takesValue := true, repeats := true }

/-- The option with a short name too. -/
def OptionSpec.withShort (spec : OptionSpec) (c : Char) : OptionSpec := { spec with short := some c }

/-- Says more about what is done. -/
def verboseFlag : OptionSpec := (flag "verbose").withShort 'v'

/-- The options of `compile`. -/
def compileOptions : List OptionSpec :=
  [(many "input").withShort 'i', (single "output").withShort 'o', single "host-version",
   flag "advanced", single "max-json-size", single "chunk-size", single "lanes", single "rulesets",
   many "allow", many "only", single "reload-command", flag "no-cache", verboseFlag]

/-- The options of `validate`. -/
def validateOptions : List OptionSpec :=
  [(single "input").withShort 'i', single "host-version", verboseFlag]

/-- The options of `disable`. -/
def disableOptions : List OptionSpec :=
  [(single "output").withShort 'o', single "rulesets", single "reload-command", verboseFlag]

/-! ## Reading options -/

/-- An option as it is given; a flag has an empty value. -/
structure Given where
  name : String
  value : String
deriving DecidableEq, Repr

/-- What a word says: options, and perhaps an option whose value is the next word. -/
structure WordOptions where
  given : List Given
  pending : Option String
deriving DecidableEq, Repr

/-- The word is no value, because it begins like an option. -/
def looksLikeOption (word : String) : Bool :=
  Text.beginsWith ['-'] word.toList && word != "-"

/-- What a long option says, given its name and the value behind `=`. -/
def readLong (specs : List OptionSpec) (name : String) (value : Option String) :
    Option WordOptions :=
  match specs.find? (·.name == name), value with
  | none, _ => none
  | some spec, some value =>
      if spec.takesValue then some { given := [{ name, value }], pending := none } else none
  | some spec, none =>
      if spec.takesValue then some { given := [], pending := some name }
      else some { given := [{ name, value := "" }], pending := none }

/-- What the short options of a word say. -/
def readShorts (specs : List OptionSpec) : List Char → Option WordOptions
  | [] => some { given := [], pending := none }
  | c :: rest =>
      match specs.find? (·.short == some c) with
      | none => none
      | some spec =>
          if spec.takesValue then
            match rest with
            | [] => some { given := [], pending := some spec.name }
            | '=' :: value =>
                some { given := [{ name := spec.name, value := String.ofList value }], pending := none }
            | value =>
                some { given := [{ name := spec.name, value := String.ofList value }], pending := none }
          else
            (readShorts specs rest).map fun w =>
              { w with given := { name := spec.name, value := "" } :: w.given }

/-- What a word says that begins like an option. -/
def readWord (specs : List OptionSpec) (word : String) : Option WordOptions :=
  match word.toList with
  | '-' :: '-' :: name =>
      match Text.breakAt? '=' name with
      | some (name, value) => readLong specs (String.ofList name) (some (String.ofList value))
      | none => readLong specs (String.ofList name) none
  | '-' :: shorts => readShorts specs shorts
  | _ => none

/-- Reads the words of a command; `pending` is the option whose value comes next. The word `--` may
stand at the end. -/
def readWords (specs : List OptionSpec) (pending : Option String) :
    List String → Option (List Given)
  | [] => if pending.isNone then some [] else none
  | word :: words =>
      match pending with
      | some name =>
          if looksLikeOption word then none
          else (readWords specs none words).map ({ name, value := word } :: ·)
      | none =>
          if word = "--" then (if words.isEmpty then some [] else none)
          else if looksLikeOption word then
            match readWord specs word with
            | none => none
            | some w => (readWords specs w.pending words).map (w.given ++ ·)
          else none

/-- No option is given more often than it may be. -/
def areSingle (specs : List OptionSpec) (given : List Given) : Bool :=
  specs.all fun spec => spec.repeats || decide (given.countP (·.name == spec.name) ≤ 1)

/-- Reads the options of a command. -/
def readOptions (specs : List OptionSpec) (words : List String) : Option (List Given) :=
  (readWords specs none words).filter (areSingle specs ·)

/-! ## Values -/

/-- The values of an option. -/
def values (given : List Given) (name : String) : List String :=
  (given.filter (·.name == name)).map Given.value

/-- The value of an option, if it is given. -/
def value? (given : List Given) (name : String) : Option String := (values given name).head?

/-- The flag is given. -/
def isGiven (given : List Given) (name : String) : Bool := given.any (·.name == name)

/-- The digits of a number, without a plus sign. -/
def dropPlus : List Char → List Char
  | '+' :: digits => digits
  | digits => digits

/-- The number that a text says, if it is below `2 ^ 64`. -/
def size? (text : String) : Option Nat :=
  let digits := dropPlus text.toList
  if digits.isEmpty || !digits.all Char.isDigit then none
  else
    let n := digits.foldl (fun n c => 10 * n + (c.toNat - 48)) 0
    if n < UInt64.size then some n else none

/-- The number of an option; `standard` if it is not given. -/
def sizeOr (given : List Given) (name : String) (standard : Nat) : Option Nat :=
  match value? given name with
  | none => some standard
  | some text => size? text

/-- The number of an option that need not be given. -/
def optionalSize (given : List Given) (name : String) : Option (Option Nat) :=
  match value? given name with
  | none => some none
  | some text => (size? text).map some

/-- The host version that is asked for; the newest one if none is. -/
def version? (given : List Given) : Option HostVersion :=
  match value? given "host-version" with
  | none => some .latest
  | some token => (HostVersion.ofToken token).toOption

/-- The words of a text. -/
def wordsOf (text : String) : List String := (Text.words text.toList).map String.ofList

/-- The identifiers that are used if none are given. -/
def standardRulesets : String := "adBlock privacy banners trackers advanced secure basic"

/-- The directory that is used if none is given. -/
def standardOutput : String := "rulesets"

/-- The identifiers of the rulesets. -/
def rulesetIds (given : List Given) : List String :=
  wordsOf ((value? given "rulesets").getD standardRulesets)

/-! ## Commands -/

/-- What the options of `compile` say. -/
def compileJob? (given : List Given) : Option CompileJob := do
  let inputs := values given "input"
  let version ← version? given
  let maxJsonSize ← optionalSize given "max-json-size"
  let chunkSize ← sizeOr given "chunk-size" 140000
  let lanes ← sizeOr given "lanes" 4
  if inputs.isEmpty then none
  else
    some
      { inputs
        output := (value? given "output").getD standardOutput
        options := { version, advanced := isGiven given "advanced", maxJsonSize }
        lanes := { chunkSize, lanes }
        rulesetIds := rulesetIds given
        allow := values given "allow"
        only := values given "only"
        reloadCommand := value? given "reload-command"
        useCache := !isGiven given "no-cache" }

/-- What the options of `disable` say. -/
def disableJob (given : List Given) : DisableJob :=
  { output := (value? given "output").getD standardOutput
    rulesetIds := rulesetIds given
    reloadCommand := value? given "reload-command" }

/-- What a command with its options says. -/
def command? (name : String) (words : List String) : Option Invocation :=
  let invoke := fun (given : List Given) (command : Command) =>
    ({ command, verbose := isGiven given "verbose" } : Invocation)
  match name with
  | "compile" => do
      let given ← readOptions compileOptions words
      return invoke given (.compile (← compileJob? given))
  | "validate" => do
      let given ← readOptions validateOptions words
      return invoke given (.validate (← value? given "input") (← version? given))
  | "disable" => do
      let given ← readOptions disableOptions words
      return invoke given (.disable (disableJob given))
  | _ => none

/-- Reads the words after the program's name; `verbose` says that the flag has been given. -/
def readFrom (verbose : Bool) : List String → Option Invocation
  | [] => none
  | word :: words =>
      if looksLikeOption word then
        match readWord [verboseFlag] word with
        | some { given := [_], pending := none } => if verbose then none else readFrom true words
        | _ => none
      else (command? word words).map fun i => { i with verbose := verbose || i.verbose }

/-- Reads the words after the program's name. -/
def read (words : List String) : Option Invocation := readFrom false words

end Arguments
end FilterCompiler
