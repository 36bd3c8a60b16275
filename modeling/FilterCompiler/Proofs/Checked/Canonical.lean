import FilterCompiler.Proofs.Checked.Marker
import FilterCompiler.Proofs.Checked.Network
import FilterCompiler.Proofs.Rule.Canonical

/-!
# Canonical form byte by byte

A line is brought to canonical form from slices of it: what stands before and behind the
marker, the items between the first parenthesis that opens and the last one that closes,
and the parts on either side of the sign of options.  All of them are in the line
(`canonicalLines_eq`).
-/

namespace FilterCompiler
namespace Checked

open Canonical
open Text (slice? sliceTo? sliceFrom?)

/-! ## Calls -/

/-- What stands between the first parenthesis that opens and the last one that closes. -/
def betweenParentheses (line : List Char) : Option (List Char) :=
  match Text.firstByte? '(' line, Text.lastByte? ')' line with
  | some opening, some closing =>
      if closing ≤ opening + 1 then return [] else slice? (opening + 1) closing line
  | _, _ => return []

/-- **The items of a call are in the line.** -/
theorem betweenParentheses_eq
    (line : List Char) :
    betweenParentheses line = some (Canonical.betweenParentheses line) := by
  rw [betweenParentheses, Text.firstByte?, Text.lastByte?, Canonical.betweenParentheses]
  cases hopen : Text.breakAt? '(' line with
  | none => rfl
  | some p =>
      obtain ⟨before, rest⟩ := p
      have hline : line = (before ++ ['(']) ++ rest := by
        rw [Text.breakAt?_eq_some hopen, List.append_assoc]
        rfl
      have hopening := Text.byteLength_concat before (c := '(') rfl
      by_cases hclose : ')' ∈ rest
      · obtain ⟨items, after, rfl, hafter⟩ := Text.exists_eq_append_cons_last hclose
        have hlast : Text.breakAtLast? ')' line = some (before ++ ['('] ++ items, after) := by
          rw [hline, ← List.append_assoc, Text.breakAtLast?_append_cons hafter]
        rw [hlast]
        dsimp only [Option.map_some]
        rw [Text.breakAtLast?_append_cons hafter, Text.byteLength_append, hopening]
        split
        · next hempty =>
            rw [Text.eq_nil_of_byteLength_eq_zero (s := items) (by omega)]
            rfl
        · rw [hline, Text.slice?_eq_some_iff]
          exact ⟨before ++ ['('], ')' :: after, rfl, hopening, by
            rw [Text.byteLength_append, hopening]
            rfl⟩
      · dsimp only [Option.map_some]
        rw [Text.breakAtLast?_of_notMem hclose, hline, Text.breakAtLast?_append_of_notMem hclose]
        cases hlast : Text.breakAtLast? ')' (before ++ ['(']) with
        | none => rfl
        | some q =>
            have hlength := congrArg Text.byteLength (Text.breakAtLast?_eq_some hlast)
            rw [hopening, Text.byteLength_append] at hlength
            exact if_pos (by dsimp only; omega)

/-- The line of a call; a call without items is dropped. -/
def ofCall (line : List Char) (index : Nat) (marker : Marker) : Option (List (List Char)) := do
  match ← betweenParentheses line with
  | [] => return []
  | items =>
      let domains ← sliceTo? index line
      return [callLine { domains, marker, content := [] } (quoteArgs callLead (callItems items))]

/-! ## Lines -/

/-- The line cut at its marker. -/
def cutAt (line : List Char) (index : Nat) (marker : Marker) : Option Marker.Cut := do
  let domains ← sliceTo? index line
  let content ← sliceFrom? (index + marker.text.toList.length) line
  return { domains, marker, content }

/-- The canonical lines of a line with a marker at byte `index`. -/
def ofMarker (line : List Char) (index : Nat) (marker : Marker) : Option (List (List Char)) := do
  let body ← sliceFrom? index line
  if marker = .hide ∨ marker = .hideException then
    if Text.beginsWith "##+js".toList body ∨ Text.beginsWith "#@#+js".toList body then
      ofCall line index marker
    else if Text.occurs styleSign line then return [ofStyle (← cutAt line index marker)]
    else return [line]
  else if marker = .style ∨ marker = .styleException then
    if holdsBlock body then return [line] else return ofSnippet (← cutAt line index marker)
  else return [line]

/-- The canonical lines of a line without marker. -/
def ofNetworkLine (line : List Char) : Option (Except LineError (List (List Char))) := do
  if ¬ Text.occurs denyallowSign line then return .ok [line]
  let parts ← splitOptions line
  match parts.options with
  | none => return .ok [line]
  | some options =>
      if isAnchored parts.pattern ∨ ¬ Text.occurs domainSign options then return .ok [line]
      match (Text.splitOn ',' options).find? (Text.occurs denyallowSign ·) with
      | none => return .ok [line]
      | some item => return ofDenyallow parts (Text.splitOn ',' options) item

/-- The lines in canonical form that take the place of a line. -/
def canonicalLines (line : List Char) : Option (Except LineError (List (List Char))) := do
  match ← findMarker line with
  | none => ofNetworkLine line
  | some (index, marker) => return .ok (← ofMarker line index marker)

theorem ofCall_eq
    {line : List Char}
    {cut : Marker.Cut}
    (h : Marker.find? line = some cut) :
    ofCall line cut.place.1 cut.marker = some (Canonical.ofCall line cut) := by
  rw [ofCall, betweenParentheses_eq, Option.bind_eq_bind, Option.bind_some, Canonical.ofCall,
    (slices_of_find? h).1]
  cases Canonical.betweenParentheses line <;> rfl

theorem cutAt_eq
    {line : List Char}
    {cut : Marker.Cut}
    (h : Marker.find? line = some cut) :
    cutAt line cut.place.1 cut.marker = some cut := by
  obtain ⟨hdomains, -, hcontent⟩ := slices_of_find? h
  rw [cutAt, hdomains, Option.bind_eq_bind, Option.bind_some, hcontent]
  rfl

/-- The content of a call is told from the line behind the domains. -/
theorem beginsWith_callSign_iff
    {marker : Marker}
    (hmarker : marker = .hide ∨ marker = .hideException)
    (content : List Char) :
    Text.beginsWith "##+js".toList (marker.text.toList ++ content) ∨
        Text.beginsWith "#@#+js".toList (marker.text.toList ++ content) ↔
      Text.beginsWith callSign content := by
  simp only [Text.beginsWith_iff]
  rcases hmarker with rfl | rfl <;> simp [Marker.text, callSign, List.cons_prefix_cons]

/-- **The slices around a marker are in the line.** -/
theorem ofMarker_eq
    {line : List Char}
    {cut : Marker.Cut}
    (h : Marker.find? line = some cut) :
    ofMarker line cut.place.1 cut.marker = some (ofCut line cut) := by
  rw [ofMarker, (slices_of_find? h).2.1, ofCall_eq h, cutAt_eq h, Option.bind_eq_bind,
    Option.bind_some]
  by_cases hhiding : cut.marker = .hide ∨ cut.marker = .hideException
  · rw [if_pos hhiding, if_congr (beginsWith_callSign_iff hhiding cut.content) rfl rfl,
      ofCut_of_hiding hhiding]
    split
    · rfl
    split <;> rfl
  rw [if_neg hhiding, ofCut]
  rw [not_or] at hhiding
  split
  · next hstyle =>
      rcases hstyle with hstyle | hstyle <;> rw [hstyle] <;> dsimp only <;> split <;> rfl
  · next hstyle =>
      rw [not_or] at hstyle
      split
      · next hmarker => exact absurd hmarker hhiding.1
      · next hmarker => exact absurd hmarker hhiding.2
      · next hmarker => exact absurd hmarker hstyle.1
      · next hmarker => exact absurd hmarker hstyle.2
      · rfl

theorem ofNetworkLine_eq
    (line : List Char) :
    ofNetworkLine line = some (Canonical.ofNetworkLine line) := by
  rw [ofNetworkLine, splitOptions_eq, Option.bind_eq_bind, Option.bind_some]
  unfold Canonical.ofNetworkLine
  split
  · rfl
  dsimp only
  cases (RuleParts.ofLine line).options with
  | none => rfl
  | some options =>
      dsimp only
      split
      · rfl
      cases (Text.splitOn ',' options).find? (Text.occurs denyallowSign ·) <;> rfl

/-- **A line is brought to canonical form without leaving it.** -/
theorem canonicalLines_eq
    (line : List Char) :
    canonicalLines line = some (Canonical.ofChars line) := by
  rw [canonicalLines, findMarker_eq, Canonical.ofChars, Option.bind_eq_bind, Option.bind_some]
  cases hcut : Marker.find? line with
  | none => exact ofNetworkLine_eq line
  | some cut =>
      have hmarker := ofMarker_eq hcut
      dsimp only [Option.map_some, Marker.Cut.place] at hmarker ⊢
      rw [hmarker]
      rfl

end Checked
end FilterCompiler
