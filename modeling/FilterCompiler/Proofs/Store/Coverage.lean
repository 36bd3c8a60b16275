import FilterCompiler.Proofs.Store.Cache

/-!
# What a fingerprint covers

The byte stream of a request leaves nothing out on which the outcome depends.  It
determines the request but for the limit of the size, where no limit and the greatest
one are written alike (`limit_cases`), and these two come to the same conversions on
any lanes and under any schedules (`convertBy_eq_of_stream_eq`).
-/

namespace FilterCompiler

/-- Limits that are written alike are the same, or one is absent and the other the
greatest one. -/
theorem Fingerprint.limit_cases
    {max max' : Option Nat}
    (h : max.getD unlimited = max'.getD unlimited) :
    max = max' ∨ (max = none ∧ max' = some (2 ^ 64 - 1)) ∨
      (max = some (2 ^ 64 - 1) ∧ max' = none) := by
  cases max with
  | none =>
      cases max' with
      | none => exact .inl rfl
      | some size' => exact .inr (.inl ⟨rfl, congrArg some h.symm⟩)
  | some size =>
      cases max' with
      | none => exact .inr (.inr ⟨congrArg some h, rfl⟩)
      | some size' => exact .inl (congrArg some h)

namespace Request

open Lanes (Schedule convertBy)

/-- The conversion that carries out the request on some lanes. -/
def job (r : Request) (lanes : Nat) : Lanes.Job :=
  .ofLines r.options { chunkSize := r.chunkSize, lanes } r.lines

/-- What a job comes to is told by the conversions of its request. -/
theorem outcome_job
    (r : Request)
    (lanes counter : Nat) :
    (r.job lanes).outcome counter =
      { conversions := some r.conversions
        counted := counter + (r.conversions.map Conversion.errorsCount).sum } := by
  rw [conversions, List.map_map]
  rfl

/-- **The byte stream covers all that the outcome depends on.**  Requests with the same
stream agree in everything, only that one may set no limit where the other sets the
greatest one.  If the texts that come of them have the sizes of machine words, then on
any lanes, and under any schedules in which nobody cancels, they come to the same
conversions and so to the same rulesets and extended rules. -/
theorem convertBy_eq_of_stream_eq
    {r r' : Request}
    (hr : Fingerprint.IsProper r.options r.chunkSize r.lines)
    (hr' : Fingerprint.IsProper r'.options r'.chunkSize r'.lines)
    (h : r.stream = r'.stream) :
    r.options.version = r'.options.version ∧
      r.options.advanced = r'.options.advanced ∧
      r.chunkSize = r'.chunkSize ∧
      r.lines = r'.lines ∧
      (r.options.maxJsonSize = r'.options.maxJsonSize ∨
        (r.options.maxJsonSize = none ∧ r'.options.maxJsonSize = some (2 ^ 64 - 1)) ∨
        (r.options.maxJsonSize = some (2 ^ 64 - 1) ∧ r'.options.maxJsonSize = none)) ∧
      ((∀ conversion ∈ r.conversions, conversion.json.utf8ByteSize < 2 ^ 64) →
        (∀ conversion ∈ r'.conversions, conversion.json.utf8ByteSize < 2 ^ 64) →
        ∀ (lanes lanes' counter : Nat) (schedule schedule' : Schedule),
          schedule.IsComplete (r.job lanes) false counter →
          schedule'.IsComplete (r'.job lanes') false counter →
          .cancel ∉ schedule.moves →
          .cancel ∉ schedule'.moves →
          let outcome := convertBy (r.job lanes) false counter schedule
          let outcome' := convertBy (r'.job lanes') false counter schedule'
          ∃ conversions conversions',
            outcome.conversions = some conversions ∧
              outcome'.conversions = some conversions' ∧
              conversions = conversions' ∧
              Conversion.merge conversions = Conversion.merge conversions' ∧
              outcome.counted = outcome'.counted) := by
  obtain ⟨hversion, hadvanced, hmax, hchunkSize, hlines⟩ := Fingerprint.stream_inj hr hr' h
  refine ⟨hversion, hadvanced, hchunkSize, hlines, Fingerprint.limit_cases hmax, ?_⟩
  intro hjson hjson' lanes lanes' counter schedule schedule' hschedule hschedule' hmoves hmoves'
  have hsame : r.conversions = r'.conversions :=
    conversions_eq_of_stream_eq ⟨hr, hjson⟩ ⟨hr', hjson'⟩ h
  have houtcome := Lanes.convertBy_of_isComplete hschedule
    (Lanes.State.cancelled_run_eq_false _ _ rfl hmoves)
  have houtcome' := Lanes.convertBy_of_isComplete hschedule'
    (Lanes.State.cancelled_run_eq_false _ _ rfl hmoves')
  rw [outcome_job] at houtcome houtcome'
  intro outcome outcome'
  refine ⟨r.conversions, r'.conversions, ?_, ?_, hsame, congrArg Conversion.merge hsame, ?_⟩
  · rw [show outcome = _ from houtcome]
  · rw [show outcome' = _ from houtcome']
  · rw [show outcome = _ from houtcome, show outcome' = _ from houtcome', hsame]

/-- A request without limit on two lanes that take turns, and one with the greatest
limit on one lane. -/
theorem convertBy_eq_of_stream_eq_unlimited :
    let lines := ["||a.example^$bogus", "c.example#%#window.x = 1;"]
    let r : Request :=
      { options := { version := .v16_4, advanced := true, maxJsonSize := none }
        chunkSize := 1
        lines }
    let r' : Request :=
      { options := { version := .v16_4, advanced := true, maxJsonSize := some (2 ^ 64 - 1) }
        chunkSize := 1
        lines }
    let turns : List Lanes.Move :=
      [.step 1, .step 0, .step 0, .step 1, .step 1, .step 0, .step 0, .step 1, .step 0, .step 1]
    let schedule : Schedule := { moves := turns, joins := [1, 0] }
    let schedule' := Lanes.oneByOne (r'.job 1)
    r.stream = r'.stream ∧
      schedule.IsComplete (r.job 5) false 3 ∧ schedule'.IsComplete (r'.job 1) false 3 ∧
      ∃ conversions conversions',
        (convertBy (r.job 5) false 3 schedule).conversions = some conversions ∧
          (convertBy (r'.job 1) false 3 schedule').conversions = some conversions' ∧
          conversions = conversions' ∧
          Conversion.merge conversions = Conversion.merge conversions' ∧
          (convertBy (r.job 5) false 3 schedule).counted =
            (convertBy (r'.job 1) false 3 schedule').counted := by
  intro lines r r' turns schedule schedule'
  have hproper : Fingerprint.IsProper r.options r.chunkSize r.lines :=
    ⟨by simp [r], by decide, by decide⟩
  have hproper' : Fingerprint.IsProper r'.options r'.chunkSize r'.lines :=
    ⟨by simp [r'], by decide, by decide⟩
  have hstream : r.stream = r'.stream := rfl
  have hschedule : schedule.IsComplete (r.job 5) false 3 :=
    ⟨Lanes.State.isFinished_of_count (r.job 5) (by decide), by decide⟩
  have hschedule' : schedule'.IsComplete (r'.job 1) false 3 := Lanes.isComplete_oneByOne _ _ _
  have hmoves : .cancel ∉ schedule.moves := by decide
  have hmoves' : .cancel ∉ schedule'.moves := by decide
  have hjson : ∀ conversion ∈ r.conversions, conversion.json.utf8ByteSize < 2 ^ 64 := by
    decide +kernel
  have hjson' : ∀ conversion ∈ r'.conversions, conversion.json.utf8ByteSize < 2 ^ 64 := by
    decide +kernel
  obtain ⟨-, -, -, -, -, hconvert⟩ := convertBy_eq_of_stream_eq hproper hproper' hstream
  exact ⟨hstream, hschedule, hschedule',
    hconvert hjson hjson' 5 1 3 schedule schedule' hschedule hschedule' hmoves hmoves'⟩

end Request
end FilterCompiler
