import FilterCompiler.Text.Blank

/-!
# Host versions

The host that executes a ruleset gained features over time. Every decision of the compiler that
hangs on the version is a function of this file.
-/

namespace FilterCompiler

/-- The host versions in which a feature changed, oldest first. -/
inductive HostVersion where
  | v13
  | v14
  | v15
  | v16
  | v16_4
  | v17
  | v18
deriving DecidableEq, Repr

namespace HostVersion

/-- The position of the version in the order of release. -/
def rank : HostVersion → Nat
  | v13 => 0
  | v14 => 1
  | v15 => 2
  | v16 => 3
  | v16_4 => 4
  | v17 => 5
  | v18 => 6

instance : LE HostVersion := ⟨fun v w => v.rank ≤ w.rank⟩

instance (v w : HostVersion) : Decidable (v ≤ w) := inferInstanceAs (Decidable (v.rank ≤ w.rank))

/-- The newest version. -/
def latest : HostVersion := v18

instance : Inhabited HostVersion := ⟨v13⟩

/-- The number of entries that the host accepts in one ruleset. -/
def rulesLimit (v : HostVersion) : Nat := if v15 ≤ v then 150000 else 50000

/-- The content type `ping` exists. -/
def supportsPing (v : HostVersion) : Bool := v14 ≤ v

/-- The selector engine knows `:is()`. -/
def supportsNativeIs (v : HostVersion) : Bool := v14 ≤ v

/-- The selector engine knows `:has()`. -/
def supportsNativeHas (v : HostVersion) : Bool := v16_4 ≤ v

/-- A rule that blocks frames needs a third-party or domain scope. -/
def requiresSubdocumentScope (v : HostVersion) : Bool := !decide (v16 ≤ v)

/-- A trigger may carry `if-domain` and `unless-domain` at once. -/
def supportsMixedDomainScope (v : HostVersion) : Bool := v16_4 ≤ v

/-- The token that names the version. -/
def token : HostVersion → String
  | v13 => "13"
  | v14 => "14"
  | v15 => "15"
  | v16 => "16"
  | v16_4 => "16.4"
  | v17 => "17"
  | v18 => "18"

/-- The version that a token names, blanks around it ignored; the trimmed token if it names none. -/
def ofToken (s : String) : Except String HostVersion :=
  let t := String.ofList (Text.trim s.toList)
  if t = "13" ∨ t = "13.0" then .ok v13
  else if t = "14" ∨ t = "14.0" then .ok v14
  else if t = "15" ∨ t = "15.0" then .ok v15
  else if t = "16" ∨ t = "16.0" then .ok v16
  else if t = "16.4" then .ok v16_4
  else if t = "17" ∨ t = "17.0" then .ok v17
  else if t = "18" ∨ t = "18.0" then .ok v18
  else .error t

/-- The version that a token names, where a blank token leaves the choice open and gets the oldest
version. -/
def ofOptionalToken (s : String) : Except String HostVersion :=
  if (Text.trim s.toList).isEmpty then .ok default else ofToken s

/-- What is said of a token that names no version. -/
def unknownMessage (token : String) : String := "Unknown host version: " ++ token

end HostVersion
end FilterCompiler
