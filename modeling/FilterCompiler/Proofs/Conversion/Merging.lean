import FilterCompiler.Proofs.Conversion.Schedules

/-!
# Merged conversions do not tell the cut

Reading lines and setting rules apart go piece by piece, so what comes of the
pieces of a list, taken together, is what comes of the whole list
(`totals_map_alone`).  Texts that have been joined are joined again to what joining
all of them at once gives, also when some pieces have none (`joined?_filterMap`).
The main result is `merge_cutIndependent`.
-/

namespace FilterCompiler

/-! ## Joining texts -/

/-- Some texts, one a line; nothing if there are none. -/
def joined? (texts : List String) : Option String :=
  match texts with
  | [] => none
  | texts => some (String.intercalate "\n" texts)

theorem joined?_of_ne_nil
    {texts : List String}
    (h : texts ≠ []) :
    joined? texts = some (String.intercalate "\n" texts) := by
  cases texts with
  | nil => exact absurd rfl h
  | cons text texts => rfl

theorem joined?_toList
    (text : Option String) :
    joined? text.toList = text := by
  cases text with
  | none => rfl
  | some text => rw [Option.toList_some, joined?_of_ne_nil (by simp), String.intercalate_singleton]

theorem joined?_append
    (first second : List String) :
    joined? (first ++ second) =
      Option.merge (fun before after => before ++ "\n" ++ after)
        (joined? first) (joined? second) := by
  by_cases hfirst : first = []
  · subst hfirst
    cases second <;> rfl
  by_cases hsecond : second = []
  · subst hsecond
    rw [List.append_nil, joined?_of_ne_nil hfirst]
    rfl
  rw [joined?_of_ne_nil hfirst, joined?_of_ne_nil hsecond, joined?_of_ne_nil (by simp [hfirst]),
    String.intercalate_append_of_ne_nil hfirst hsecond]
  rfl

/-- **Joining what has been joined is joining all of it.** -/
theorem joined?_filterMap
    (groups : List (List String)) :
    joined? (groups.filterMap joined?) = joined? groups.flatten := by
  induction groups with
  | nil => rfl
  | cons group groups ih =>
      have hcons :
          (group :: groups).filterMap joined? =
            (joined? group).toList ++ groups.filterMap joined? := by
        cases h : joined? group <;> simp [h]
      rw [hcons, joined?_append, joined?_toList, ih, ← joined?_append, List.flatten_cons]

/-! ## Pieces of a list -/

theorem RuleBatch.ofLines_append
    (version : HostVersion)
    (first second : List String) :
    ofLines version (first ++ second) =
      { rules := (ofLines version first).rules ++ (ofLines version second).rules
        errors := (ofLines version first).errors + (ofLines version second).errors } := by
  simp only [ofLines, ofOutcomes, List.flatMap_append, List.filterMap_append, List.countP_append]

theorem splitRules_append
    (first second : List Rule) :
    splitRules (first ++ second) =
      ((splitRules first).1 ++ (splitRules second).1,
        (splitRules first).2 ++ (splitRules second).2) := by
  simp only [splitRules, List.filter_append]

namespace Conversion

/-- What lines come to when they are converted alone. -/
def alone (options : ConversionOptions) (lines : List String) : Conversion :=
  (run options (.always false) lines).conversion

/-- The texts of the rules for the extended engine. -/
def extendedLines (version : HostVersion) (lines : List String) : List String :=
  (splitRules (RuleBatch.ofLines version lines).rules).2.map Rule.text

theorem extendedLines_flatten
    (version : HostVersion)
    (pieces : List (List String)) :
    extendedLines version pieces.flatten = (pieces.map (extendedLines version)).flatten := by
  induction pieces with
  | nil => rfl
  | cons piece pieces ih =>
      simp only [extendedLines, List.flatten_cons, List.map_cons, RuleBatch.ofLines_append,
        splitRules_append, List.map_append] at ih ⊢
      rw [ih]

theorem extendedText_alone
    (options : ConversionOptions)
    (lines : List String) :
    (alone options lines).extendedText =
      if options.advanced then joined? (extendedLines options.version lines) else none := by
  have htext :
      (alone options lines).extendedText =
        extendedText? options (splitRules (RuleBatch.ofLines options.version lines).rules).2 := rfl
  rw [htext, extendedText?, extendedLines]
  cases options.advanced with
  | false => rfl
  | true =>
      cases (splitRules (RuleBatch.ofLines options.version lines).rules).2 with
      | nil => rfl
      | cons rule rules => rfl

theorem extended_merge
    (conversions : List Conversion) :
    (merge conversions).extended = joined? (conversions.filterMap extendedText) := rfl

/-- **The extended rules of the pieces, joined, are those of the whole list.** -/
theorem extended_merge_map_alone
    (options : ConversionOptions)
    (pieces : List (List String)) :
    (merge (pieces.map (alone options))).extended =
      (alone options pieces.flatten).extendedText := by
  have hpieces :
      extendedText ∘ alone options =
        fun piece =>
          if options.advanced then joined? (extendedLines options.version piece) else none :=
    funext fun piece => extendedText_alone options piece
  rw [extended_merge, List.filterMap_map, hpieces, extendedText_alone]
  cases options.advanced with
  | false => simp [joined?]
  | true =>
      have hjoined := joined?_filterMap (pieces.map (extendedLines options.version))
      rw [List.filterMap_map, ← extendedLines_flatten] at hjoined
      exact hjoined

/-- The counts of a conversion on which neither limits nor exceptions bear. -/
structure Totals where
  sourceLines : Nat
  sourceRules : Nat
  compatibleRules : Nat
  extendedRules : Nat
  errors : Nat
deriving DecidableEq, Repr

instance : Add Totals :=
  ⟨fun a b =>
    { sourceLines := a.sourceLines + b.sourceLines
      sourceRules := a.sourceRules + b.sourceRules
      compatibleRules := a.compatibleRules + b.compatibleRules
      extendedRules := a.extendedRules + b.extendedRules
      errors := a.errors + b.errors }⟩

/-- The counts of some conversions, added up. -/
def totals (conversions : List Conversion) : Totals :=
  { sourceLines := (conversions.map sourceLinesCount).sum
    sourceRules := (conversions.map sourceRulesCount).sum
    compatibleRules := (conversions.map compatibleRulesCount).sum
    extendedRules := (conversions.map extendedRulesCount).sum
    errors := (conversions.map errorsCount).sum }

theorem totals_cons
    (conversion : Conversion)
    (conversions : List Conversion) :
    totals (conversion :: conversions) = totals [conversion] + totals conversions := rfl

theorem totals_alone
    (options : ConversionOptions)
    (lines : List String) :
    let batch := RuleBatch.ofLines options.version lines
    totals [alone options lines] =
      { sourceLines := lines.length
        sourceRules := batch.rules.length
        compatibleRules := (splitRules batch.rules).1.length
        extendedRules := if options.advanced then (splitRules batch.rules).2.length else 0
        errors := batch.errors } := rfl

theorem totals_alone_append
    (options : ConversionOptions)
    (first second : List String) :
    totals [alone options (first ++ second)] =
      totals [alone options first] + totals [alone options second] := by
  simp only [totals_alone, RuleBatch.ofLines_append, splitRules_append, List.length_append]
  cases options.advanced <;> rfl

/-- **The counts of the pieces add up to those of the whole list.** -/
theorem totals_map_alone
    (options : ConversionOptions)
    (pieces : List (List String)) :
    totals (pieces.map (alone options)) = totals [alone options pieces.flatten] := by
  induction pieces with
  | nil =>
      rw [List.flatten_nil, totals_alone]
      cases options.advanced <;> rfl
  | cons piece pieces ih =>
      rw [List.map_cons, totals_cons, ih, ← totals_alone_append, List.flatten_cons]

end Conversion

namespace Lanes

open Conversion

/-- The chunks of some lines, converted alone and in a row. -/
theorem conversions_outcome
    (options : ConversionOptions)
    (config : Config)
    (lines : List String)
    (counter : Nat) :
    ∃ pieces : List (List String), pieces.flatten = lines ∧
      ((Job.ofLines options config lines).outcome counter).conversions =
        some (pieces.map (alone options)) := by
  let source := ChunkedLines.ofLines config.chunkSize lines
  refine ⟨(List.range source.count).map source.chunk, ?_, ?_⟩
  · rw [← List.flatMap_def]
    exact source.flatMap_chunk
  · rw [List.map_map]
    rfl

/-- **Merging does not tell how the lines were cut.**  However two conversions of the
same lines cut them, on however many lanes and under whatever schedules they run: if
nobody cancels them, both come to conversions, and these have the extended rules and
the total counts of the lines converted in one piece. -/
theorem merge_cutIndependent
    (options : ConversionOptions)
    (lines : List String)
    (config config' : Config)
    (counter counter' : Nat)
    (schedule schedule' : Schedule)
    (hschedule : schedule.IsComplete (.ofLines options config lines) false counter)
    (hschedule' : schedule'.IsComplete (.ofLines options config' lines) false counter')
    (hmoves : .cancel ∉ schedule.moves)
    (hmoves' : .cancel ∉ schedule'.moves) :
    let whole := (Conversion.run options (.always false) lines).conversion
    ∃ conversions conversions',
      (convertBy (.ofLines options config lines) false counter schedule).conversions =
          some conversions ∧
        (convertBy (.ofLines options config' lines) false counter' schedule').conversions =
          some conversions' ∧
        (merge conversions).extended = (merge conversions').extended ∧
        (merge conversions).extended = whole.extendedText ∧
        totals conversions = totals conversions' ∧
        totals conversions = totals [whole] := by
  intro whole
  have houtcome := convertBy_of_isComplete hschedule (State.cancelled_run_eq_false _ _ rfl hmoves)
  have houtcome' :=
    convertBy_of_isComplete hschedule' (State.cancelled_run_eq_false _ _ rfl hmoves')
  obtain ⟨pieces, hpieces, hconversions⟩ := conversions_outcome options config lines counter
  obtain ⟨pieces', hpieces', hconversions'⟩ := conversions_outcome options config' lines counter'
  have hextended := extended_merge_map_alone options pieces
  have hextended' := extended_merge_map_alone options pieces'
  have htotals := totals_map_alone options pieces
  have htotals' := totals_map_alone options pieces'
  rw [hpieces] at hextended htotals
  rw [hpieces'] at hextended' htotals'
  refine ⟨_, _, houtcome ▸ hconversions, houtcome' ▸ hconversions', ?_, hextended, ?_, htotals⟩
  · exact hextended.trans hextended'.symm
  · exact htotals.trans htotals'.symm

/-- Chunks of two lines on two lanes that take turns, and chunks of one line on one
lane.  The second of the two chunks, and the third of the three, have no extended
rules. -/
theorem merge_of_turns :
    let options : ConversionOptions := { version := .v16_4, advanced := true, maxJsonSize := none }
    let config : Config := { chunkSize := 2, lanes := 5 }
    let config' : Config := { chunkSize := 0, lanes := 0 }
    let lines := ["a.example#%#window.x = 1;", "b.example#%#window.y = 2;", "||c.example^"]
    let job := Job.ofLines options config lines
    let job' := Job.ofLines options config' lines
    let turns : List Move :=
      [.step 1, .step 0, .step 0, .step 1, .step 1, .step 0, .step 0, .step 1, .step 0, .step 1]
    let schedule : Schedule := { moves := turns, joins := [1, 0] }
    let schedule' := oneByOne job'
    schedule.IsComplete job false 0 ∧ schedule'.IsComplete job' false 4 ∧
      .cancel ∉ schedule.moves ∧ .cancel ∉ schedule'.moves ∧
      ∃ conversions conversions',
        (convertBy job false 0 schedule).conversions = some conversions ∧
          (convertBy job' false 4 schedule').conversions = some conversions' ∧
          (merge conversions).extended = (merge conversions').extended ∧
          (merge conversions).extended =
            (Conversion.run options (.always false) lines).conversion.extendedText ∧
          totals conversions = totals conversions' ∧
          totals conversions = totals [(Conversion.run options (.always false) lines).conversion] := by
  intro options config config' lines job job' turns schedule schedule'
  have hschedule : schedule.IsComplete job false 0 :=
    ⟨State.isFinished_of_count job (by decide), by decide⟩
  have hschedule' : schedule'.IsComplete job' false 4 := isComplete_oneByOne job' false 4
  have hmoves : .cancel ∉ schedule.moves := by decide
  have hmoves' : .cancel ∉ schedule'.moves := by decide
  exact ⟨hschedule, hschedule', hmoves, hmoves',
    merge_cutIndependent options lines config config' 0 4 schedule schedule' hschedule hschedule'
      hmoves hmoves'⟩

end Lanes
end FilterCompiler
