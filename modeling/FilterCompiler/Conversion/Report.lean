import FilterCompiler.Conversion.Basic

/-!
# Report of a conversion

What is said of a conversion: how much was read, how much was left out, and how large the results
are. The text has no line feed at its end.
-/

namespace FilterCompiler
namespace Conversion

/-- The size of the extended rules in bytes. -/
def extendedSize (c : Conversion) : Nat := (c.extendedText.map String.utf8ByteSize).getD 0

/-- The lines of the report. -/
def reportLines (c : Conversion) : List String :=
  ["## Conversion status",
   "",
   s!"* Source lines count: {c.sourceLinesCount}",
   s!"* Source rules count: {c.sourceRulesCount}",
   s!"* Source rules compatible with the host: {c.compatibleRulesCount}",
   s!"* Failed to convert: {c.errorsCount}",
   s!"* Discarded due to limits: {c.discardedCount}",
   "",
   "## Result",
   "",
   s!"* JSON entries count: {c.entriesCount}",
   s!"* JSON size: {c.json.utf8ByteSize}",
   s!"* Extended rules count: {c.extendedRulesCount}",
   s!"* Extended rules size: {c.extendedSize}"]

/-- The report. -/
def report (c : Conversion) : String := String.intercalate "\n" c.reportLines

end Conversion
end FilterCompiler
