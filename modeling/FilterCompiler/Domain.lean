import FilterCompiler.Text.Split

/-!
# Domain names

Domains as texts of labels separated by dots: the parent of a domain, the subdomain order, letter
case, and the shape of a host name that can be registered.
-/

namespace FilterCompiler
namespace Domain

/-- The domain without its leftmost label, if something remains. -/
def parent? (host : List Char) : Option (List Char) :=
  match Text.breakAt? '.' host with
  | some (_, []) => none
  | some (_, rest) => some rest
  | none => none

theorem length_parent?_lt {host rest : List Char} (h : parent? host = some rest) :
    rest.length < host.length := by
  unfold parent? at h
  split at h
  · simp at h
  · next label r _ hb =>
    cases h
    rw [Text.breakAt?_eq_some hb]
    simp
    omega
  · simp at h

/-- The domain is one of the parents of `host`. -/
def isParent (domain host : List Char) : Bool :=
  match _h : parent? host with
  | some rest => rest = domain || isParent domain rest
  | none => false
termination_by host.length
decreasing_by exact length_parent?_lt _h

/-- The candidate is the domain itself or one of its subdomains. -/
def isWithin (candidate domain : String) : Bool :=
  candidate = domain || isParent domain.toList candidate.toList

/-- The character is an ASCII letter. -/
def isLetter (c : Char) : Bool :=
  ('a' ≤ c && c ≤ 'z') || ('A' ≤ c && c ≤ 'Z')

/-- The character is an ASCII letter or digit. -/
def isAlphanumeric (c : Char) : Bool :=
  isLetter c || ('0' ≤ c && c ≤ '9')

/-- The text with its ASCII capitals made small. -/
def lower (s : String) : String :=
  String.ofList (s.toList.map fun c => if 'A' ≤ c ∧ c ≤ 'Z' then Char.ofNat (c.toNat + 32) else c)

/-- The text has the shape of a host name that can be registered: labels of letters, digits and
hyphens, and a last label of two or more characters that begins with a letter. -/
def looksLikeHost (domain : String) : Bool :=
  match Text.breakAtLast? '.' domain.toList with
  | none => false
  | some (host, tld) =>
      2 ≤ Text.byteLength host && 2 ≤ Text.byteLength tld
        && host.head?.any isAlphanumeric && host.getLast?.any isAlphanumeric
        && host.all (fun c => isAlphanumeric c || c == '-' || c == '.')
        && tld.head?.any isLetter
        && tld.all (fun c => isAlphanumeric c || c == '-')

end Domain
end FilterCompiler
