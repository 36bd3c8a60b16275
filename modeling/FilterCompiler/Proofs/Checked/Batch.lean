import FilterCompiler.Proofs.Checked.Canonical
import FilterCompiler.Proofs.Checked.Cosmetic
import FilterCompiler.Rule.Batch

/-!
# Batches read byte by byte

A line of a filter list is trimmed, brought to canonical form and read, each time from
slices of a line.  No line leads out of range or into a character, so no line keeps the
others from being read (`ofLines_eq_some`).
-/

namespace FilterCompiler
namespace Checked

/-- Reads a line in canonical form. -/
def ofLine (version : HostVersion) (line : String) : Option (Except LineError (Option Rule)) := do
  if Rule.isSkipped line.toList then return .ok none
  if Text.byteLength line.toList < 3 then return .error .shortLine
  match ← findMarker line.toList with
  | some _ => return (← parseCosmetic version line).map (some ∘ Rule.cosmetic)
  | none => return (← parseNetwork version line).map (some ∘ Rule.network)

/-- What a line in canonical form comes to, if it is not left out. -/
def outcome? (version : HostVersion) (line : String) :
    Option (Option (Except LineError Rule)) := do
  match ← ofLine version line with
  | .ok none => return none
  | .ok (some rule) => return some (.ok rule)
  | .error e => return some (.error e)

/-- What a line of a filter list comes to: rules and errors in order. -/
def outcomes (version : HostVersion) (line : String) : Option (List (Except LineError Rule)) := do
  let trimmed := Text.trim line.toList
  if Rule.isSkipped trimmed then return []
  match ← canonicalLines trimmed with
  | .error e => return [.error e]
  | .ok lines => lines.filterMapM fun canonical => outcome? version (String.ofList canonical)

/-- The batch of the lines of a filter list. -/
def ofLines (version : HostVersion) (lines : List String) : Option RuleBatch := do
  return RuleBatch.ofOutcomes (← lines.flatMapM (outcomes version))

/-! ## Loops -/

section Loops

variable {α β : Type}

theorem filterMapM_eq
    {f : α → Option (Option β)}
    {g : α → Option β}
    (h : ∀ a, f a = some (g a))
    (l : List α) :
    l.filterMapM f = some (l.filterMap g) := by
  induction l with
  | nil => rfl
  | cons a l ih =>
      rw [List.filterMapM_cons, h, ih, Option.bind_eq_bind, Option.bind_some, List.filterMap_cons]
      cases g a <;> rfl

theorem flatMapM_eq
    {f : α → Option (List β)}
    {g : α → List β}
    (h : ∀ a, f a = some (g a))
    (l : List α) :
    l.flatMapM f = some (l.flatMap g) := by
  induction l with
  | nil => rfl
  | cons a l ih =>
      rw [List.flatMapM_cons, h, ih, List.flatMap_cons]
      rfl

end Loops

/-! ## Lines -/

section Lines

variable (version : HostVersion)

theorem ofLine_eq
    (line : String) :
    ofLine version line = some (Rule.ofLine version line) := by
  rw [ofLine, findMarker_eq, Rule.ofLine, Option.bind_eq_bind, Option.bind_some]
  split
  · rfl
  split
  · rfl
  rw [parseCosmetic_eq, parseNetwork_eq, CosmeticRule.parse]
  cases Marker.find? line.toList <;> rfl

theorem outcome?_eq
    (line : String) :
    outcome? version line = some (Rule.outcome? version line) := by
  rw [outcome?, ofLine_eq, Rule.outcome?, Option.bind_eq_bind, Option.bind_some]
  rcases Rule.ofLine version line with e | rule | _
  all_goals rfl

theorem outcomes_eq
    (line : String) :
    outcomes version line = some (Rule.outcomes version line) := by
  rw [outcomes, Rule.outcomes]
  split
  · rfl
  rw [canonicalLines_eq, Canonical.lines, String.toList_ofList, Option.bind_eq_bind,
    Option.bind_some]
  cases Canonical.ofChars (Text.trim line.toList) with
  | error e => rfl
  | ok lines =>
      dsimp only [Except.map]
      rw [List.filterMap_map]
      exact filterMapM_eq (fun canonical => outcome?_eq version (String.ofList canonical)) lines

/-- **No line aborts the reading of a filter list**: every index and every slice that is
taken is in range and between characters, and the batch is that of the reader of texts. -/
theorem ofLines_eq_some
    (lines : List String) :
    ofLines version lines = some (RuleBatch.ofLines version lines) := by
  rw [ofLines, flatMapM_eq (outcomes_eq version), Option.bind_eq_bind, Option.bind_some,
    RuleBatch.ofLines]
  rfl

end Lines

end Checked
end FilterCompiler
