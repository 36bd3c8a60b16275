/-!
# Allowlists

Lines that switch blocking off, on some domains or everywhere but on some domains.
-/

namespace FilterCompiler
namespace Allowlist

/-- The line that switches blocking off on a domain. -/
def line (domain : String) : String := "@@||" ++ domain ++ "$document"

/-- The line that switches blocking off everywhere but on the given domains; empty ones do not count,
and without domains there is no line. -/
def invertedLine? (domains : List String) : Option String :=
  match domains.filter (· ≠ "") with
  | [] => none
  | domains => some ("@@||*$document,domain=~" ++ String.intercalate "|~" domains)

end Allowlist
end FilterCompiler
