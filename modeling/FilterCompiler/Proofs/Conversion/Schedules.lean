import FilterCompiler.Proofs.Conversion.Chunks
import FilterCompiler.Proofs.Conversion.Lanes

/-!
# Conversions on lanes under every schedule

A schedule is complete if it runs all lanes to their ends and joins each of them.
What a complete schedule comes to depends only on whether the token has been
cancelled in the end: if so there is no conversion (`convertBy_of_cancelled`), and
otherwise there is the result of every chunk (`convertBy_of_isComplete`).
-/

namespace FilterCompiler
namespace Lanes
namespace State

variable (job : Job) (s : State)

/-! ## The end of a run -/

theorem isFinished_iff :
    s.isFinished ↔ ∀ number < s.lanes.size, (s.lane number).isFinished := by
  rw [isFinished, Array.all_eq_true]
  refine forall_congr' fun number => forall_congr' fun hnumber => ?_
  simp [lane, hnumber]

theorem mem_lanesAt
    {joins : List Nat}
    {joined : Lane} :
    joined ∈ s.lanesAt joins ↔
      ∃ number ∈ joins, number < s.lanes.size ∧ s.lane number = joined := by
  rw [lanesAt, List.mem_filterMap]
  refine exists_congr fun number => and_congr_right fun _ => ?_
  rw [Array.getElem?_eq_some_iff, ← exists_prop]
  refine exists_congr fun hnumber => ?_
  simp [lane, hnumber]

theorem size_foldl_setIfInBounds
    {α : Type}
    (found : Array α)
    (results : List (Nat × α)) :
    (results.foldl (fun found p => found.setIfInBounds p.1 p.2) found).size = found.size := by
  induction results generalizing found with
  | nil => rfl
  | cons p results ih =>
      rw [List.foldl_cons, ih, Array.size_setIfInBounds]

/-- What is written down for an index stays there, since all results for an
index are the same. -/
theorem getElem?_foldl_setIfInBounds
    {α : Type}
    {f : Nat → α}
    {found : Array α}
    {results : List (Nat × α)}
    (hresults : ∀ p ∈ results, p.2 = f p.1)
    {index : Nat}
    (hindex : index < found.size)
    (h : index ∈ results.map Prod.fst ∨ found[index]? = some (f index)) :
    (results.foldl (fun found p => found.setIfInBounds p.1 p.2) found)[index]? =
      some (f index) := by
  induction results generalizing found with
  | nil => exact h.resolve_left List.not_mem_nil
  | cons p results ih =>
      rw [List.forall_mem_cons] at hresults
      apply ih hresults.2 (by rwa [Array.size_setIfInBounds])
      by_cases hp : p.1 = index
      · right
        rw [← hp, Array.getElem?_setIfInBounds_self_of_lt (hp ▸ hindex), hresults.1]
      · rw [Array.getElem?_setIfInBounds_ne hp]
        exact h.imp_left fun hmem => (List.mem_cons.mp hmem).resolve_left (Ne.symm hp)

/-- **Results are collected by index**, in whatever order the lanes are joined. -/
theorem collect_eq
    {f : Nat → Conversion}
    {chunkCount : Nat}
    {lanes : List Lane}
    (hresults : ∀ lane ∈ lanes, ∀ p ∈ lane.done, p.2 = f p.1)
    (hall : ∀ index < chunkCount, ∃ lane ∈ lanes, index ∈ lane.results.map Prod.fst) :
    collect chunkCount lanes = (List.range chunkCount).map f := by
  have hsize :
      (Array.replicate chunkCount Conversion.empty).size = chunkCount := Array.size_replicate
  apply List.ext_getElem?
  intro index
  rw [collect, Array.getElem?_toList]
  by_cases hindex : index < chunkCount
  · obtain ⟨lane, hlane, hmem⟩ := hall index hindex
    rw [getElem?_foldl_setIfInBounds (f := f) ?_ (by omega) (.inl ?_)]
    · simp [hindex]
    · intro p hp
      obtain ⟨lane, hlane, hp⟩ := List.mem_flatMap.mp hp
      exact hresults lane hlane p (List.mem_reverse.mp hp)
    · rw [List.map_flatMap]
      exact List.mem_flatMap.mpr ⟨lane, hlane, hmem⟩
  · rw [Array.getElem?_eq_none (by rw [size_foldl_setIfInBounds]; omega),
      List.getElem?_eq_none (by simpa using hindex)]

/-- **A run that ends without cancellation gives the result of every chunk.** -/
theorem IsRight.collect_lanesAt
    {job : Job}
    {counter : Nat}
    {s : State}
    {joins : List Nat}
    (h : IsRight job counter s)
    (hfinished : s.isFinished)
    (hjoins : joins.Perm (List.range job.laneCount)) :
    collect job.source.count (s.lanesAt joins) = (List.range job.source.count).map job.result := by
  rw [isFinished_iff, h.size] at hfinished
  apply collect_eq
  · intro joined hjoined p hp
    obtain ⟨number, -, hnumber, rfl⟩ := s.mem_lanesAt.mp hjoined
    rw [h.size] at hnumber
    exact (h.lanes number hnumber).results p hp
  · intro index hindex
    have hmem := List.mem_range.mpr hindex
    rw [← (flatMap_indices_perm job).mem_iff, List.mem_flatMap] at hmem
    obtain ⟨number, hnumber, hindices⟩ := hmem
    have hlt := List.mem_range.mp hnumber
    refine ⟨s.lane number, ?_, ?_⟩
    · rw [mem_lanesAt, h.size]
      exact ⟨number, hjoins.mem_iff.mpr hnumber, hlt, rfl⟩
    · rw [(h.lanes number hlt).results_of_isFinished (hfinished number hlt)]
      exact hindices

theorem IsRight.counter_of_isFinished
    {job : Job}
    {counter : Nat}
    {s : State}
    (h : IsRight job counter s)
    (hfinished : s.isFinished) :
    s.counter =
      counter +
        ((List.range job.source.count).map fun index => (job.result index).errorsCount).sum := by
  rw [isFinished_iff, h.size] at hfinished
  rw [h.counter, h.size, ← sum_map_indices]
  congr 1
  apply Finset.sum_congr rfl
  intro number hnumber
  rw [Finset.mem_range] at hnumber
  exact (h.lanes number hnumber).counted_of_isFinished (hfinished number hnumber)

/-! ## Schedules that finish -/

/-- **Each of its steps brings a lane nearer to its end**, whatever happens
between them. -/
theorem remaining_run_le
    (moves : List Move)
    (number : Nat) :
    ((s.run job moves).lane number).remaining ≤
      (s.lane number).remaining - moves.count (.step number) := by
  induction moves generalizing s with
  | nil => exact Nat.le_refl _
  | cons m moves ih =>
      have hrest := ih (s.move job m)
      cases m with
      | cancel =>
          rw [List.count_cons_of_ne (by simp)]
          exact hrest
      | step stepped =>
          rw [lane_step] at hrest
          -- a step of another lane leaves this one as it is
          split at hrest
          · next heq =>
              subst heq
              have hstep := (Lane.steps_step job s.cancelled (s.lane number)).remaining_le
              rw [List.count_cons_self]
              exact Nat.le_trans hrest (by omega)
          · next hne =>
              rw [List.count_cons_of_ne (by simp [Ne.symm hne])]
              exact hrest

theorem isFinished_of_count
    {cancelled : Bool}
    {counter : Nat}
    {moves : List Move}
    (h : ∀ number < job.laneCount,
      stepsPerChunk * (job.indices number).length ≤ moves.count (.step number)) :
    ((start job cancelled counter).run job moves).isFinished := by
  have hsize := ((inOrder_start job cancelled counter).run moves).size
  rw [isFinished_iff, hsize]
  intro number hnumber
  have hremaining := remaining_run_le job (start job cancelled counter) moves number
  rw [lane_start job cancelled counter hnumber] at hremaining
  rw [Lane.isFinished_iff]
  have hsteps := h number hnumber
  simp only [Lane.start, Lane.remaining, Phase.remaining_idle] at hremaining ⊢
  omega

end State

/-! ## Conversions on lanes -/

/-- What the chunks come to when they are converted alone, one after the other. -/
def Job.outcome (job : Job) (counter : Nat) : Outcome :=
  { conversions := some ((List.range job.source.count).map job.result)
    counted :=
      counter +
        ((List.range job.source.count).map fun index => (job.result index).errorsCount).sum }

/-- The schedule runs all lanes to their ends and joins each of them. -/
structure Schedule.IsComplete (job : Job) (cancelled : Bool) (counter : Nat)
    (schedule : Schedule) : Prop where
  finished : ((State.start job cancelled counter).run job schedule.moves).isFinished
  joined : schedule.joins.Perm (List.range job.laneCount)

theorem isComplete_oneByOne
    (job : Job)
    (cancelled : Bool)
    (counter : Nat) :
    (oneByOne job).IsComplete job cancelled counter where
  finished := by
    apply State.isFinished_of_count
    intro number hnumber
    have hsublist :
        (List.replicate (stepsPerChunk * (job.indices number).length) (.step number)).Sublist
          (oneByOne job).moves := by
      rw [oneByOne, List.flatMap_def]
      apply List.sublist_flatten_of_mem
      exact List.mem_map_of_mem (List.mem_range.mpr hnumber)
    simpa using hsublist.count_le (.step number)
  joined := List.Perm.refl _

/-- **A conversion that is not cancelled gives the result of every chunk** and
counts their errors, under every schedule that runs all lanes to their ends. -/
theorem convertBy_of_isComplete
    {job : Job}
    {cancelled : Bool}
    {counter : Nat}
    {schedule : Schedule}
    (hschedule : schedule.IsComplete job cancelled counter)
    (hcancelled : ((State.start job cancelled counter).run job schedule.moves).cancelled = false) :
    convertBy job cancelled counter schedule = job.outcome counter := by
  have hright := (State.isRight_start job cancelled counter).run hcancelled
  have hcollect := hright.collect_lanesAt hschedule.finished hschedule.joined
  have hcounter := hright.counter_of_isFinished hschedule.finished
  unfold convertBy
  split
  · next hcount => simp [Job.outcome, hcount]
  · simp only [State.outcome, Job.outcome, hcancelled, hcollect, hcounter, Bool.false_eq_true, if_false]

/-- Where there is a chunk, a conversion that has been cancelled in the end
gives nothing. -/
theorem convertBy_of_cancelled
    {job : Job}
    {cancelled : Bool}
    {counter : Nat}
    {schedule : Schedule}
    (hcount : 0 < job.source.count)
    (hcancelled : ((State.start job cancelled counter).run job schedule.moves).cancelled) :
    (convertBy job cancelled counter schedule).conversions = none := by
  rw [convertBy, if_neg (by omega)]
  simp only [State.outcome, hcancelled, if_true]

/-- **Conversions are never of a cancelled run**: those that are given are the
results of the chunks, whatever happened to the token. -/
theorem convertBy_of_eq_some
    {job : Job}
    {cancelled : Bool}
    {counter : Nat}
    {schedule : Schedule}
    {conversions : List Conversion}
    (hschedule : schedule.IsComplete job cancelled counter)
    (h : (convertBy job cancelled counter schedule).conversions = some conversions) :
    convertBy job cancelled counter schedule = job.outcome counter := by
  cases hend : ((State.start job cancelled counter).run job schedule.moves).cancelled with
  | false => exact convertBy_of_isComplete hschedule hend
  | true =>
      rcases Nat.eq_zero_or_pos job.source.count with hcount | hcount
      · -- without chunks the token is not looked at
        simp [convertBy, Job.outcome, hcount]
      · rw [convertBy_of_cancelled hcount hend] at h
        cases h

theorem convert_eq
    (options : ConversionOptions)
    (config : Config)
    (lines : List String) :
    convert options config false lines = (Job.ofLines options config lines).outcome 0 := by
  have hnocancel : Move.cancel ∉ (oneByOne (.ofLines options config lines)).moves := by
    simp [oneByOne]
  exact convertBy_of_isComplete (isComplete_oneByOne _ false 0)
    (State.cancelled_run_eq_false _ _ rfl hnocancel)

/-- **Conversion on lanes does not depend on the schedule.**  The chunks in a row
are the lines, and their bounds fit into a machine word.  No chunk is taken twice,
however far the lanes have come.  When all lanes have finished and the call gives
conversions, they are those of the chunks converted alone, and the counter has
grown by their errors; a call of which some poll has found the token cancelled
gives none, and a call that nobody cancels gives some. -/
theorem convertBy_scheduleIndependent
    (options : ConversionOptions)
    (config : Config)
    (lines : List String)
    (cancelled : Bool)
    (counter : Nat)
    (schedule : Schedule)
    (hlines : lines.length < 2 ^ 63)
    (hsize : config.chunkSize < 2 ^ 64)
    (hschedule : schedule.IsComplete (.ofLines options config lines) cancelled counter) :
    let job := Job.ofLines options config lines
    let start := State.start job cancelled counter
    let outcome := convertBy job cancelled counter schedule
    (List.range job.source.count).flatMap job.source.chunk = lines ∧
      (∀ index < job.source.count,
        index * job.source.size < 2 ^ 64 ∧
          job.source.start index + job.source.size < 2 ^ 64) ∧
      (∀ moves, (start.takenBy job moves).Nodup ∧
        ∀ index ∈ start.takenBy job moves, index < job.source.count) ∧
      (∀ conversions, outcome.conversions = some conversions →
        conversions =
            (List.range job.source.count).map (fun index =>
              (Conversion.run options (.always false) (job.source.chunk index)).conversion) ∧
          outcome.counted = counter + (conversions.map Conversion.errorsCount).sum) ∧
      (start.SeesCancelled job schedule.moves → outcome.conversions = none) ∧
      (cancelled = false → .cancel ∉ schedule.moves → outcome.conversions.isSome) := by
  intro job start outcome
  have hbound : job.source.size < 2 ^ 64 := by
    change max 1 config.chunkSize < 2 ^ 64
    omega
  refine ⟨job.source.flatMap_chunk, ?_, ?_, ?_, ?_, ?_⟩
  · intro index hindex
    have hstart := job.source.start_add_size_lt hlines hbound hindex
    exact ⟨Nat.lt_of_le_of_lt (Nat.le_add_right _ _) hstart, hstart⟩
  · intro moves
    have htaken := State.takenBy_le job cancelled counter moves
    refine ⟨Multiset.coe_nodup.mp (Multiset.nodup_of_le htaken List.nodup_range), ?_⟩
    intro index hindex
    exact List.mem_range.mp (Multiset.mem_of_le htaken hindex)
  · intro conversions hconversions
    have houtcome : outcome = job.outcome counter := convertBy_of_eq_some hschedule hconversions
    rw [houtcome, Job.outcome, Option.some_inj] at hconversions
    subst hconversions
    rw [houtcome, List.map_map]
    exact ⟨rfl, rfl⟩
  · intro hsees
    have hcount : 0 < job.source.count := by
      by_contra hcount
      refine State.not_seesCancelled job start schedule.moves ?_ hsees
      rw [(State.inOrder_start job cancelled counter).size, Job.laneCount]
      omega
    exact convertBy_of_cancelled hcount (State.cancelled_of_seesCancelled job start hsees)
  · intro hcancelled hmoves
    have houtcome : outcome = job.outcome counter :=
      convertBy_of_isComplete hschedule (State.cancelled_run_eq_false job start hcancelled hmoves)
    rw [houtcome]
    rfl

/-- Two lanes with a chunk each take turns, the second lane is joined first, and
five lanes are asked for. Nobody cancels the first run; the second one is
cancelled between two polls. -/
theorem convertBy_of_turns :
    let options : ConversionOptions := { version := .v16_4, advanced := true, maxJsonSize := none }
    let config : Config := { chunkSize := 2, lanes := 5 }
    let lines := ["||a.example^$bogus", "||b.example^", "c.example##.ad"]
    let job := Job.ofLines options config lines
    let turns : List Move :=
      [.step 1, .step 0, .step 0, .step 1, .step 1, .step 0, .step 0, .step 1, .step 0, .step 1]
    let schedule : Schedule := { moves := turns, joins := [1, 0] }
    let late : Schedule := { moves := .step 0 :: .step 0 :: .cancel :: turns, joins := [0, 1] }
    lines.length < 2 ^ 63 ∧ config.chunkSize < 2 ^ 64 ∧
      schedule.IsComplete job false 3 ∧ late.IsComplete job false 3 ∧
      (State.start job false 3).SeesCancelled job late.moves ∧
      (convertBy job false 3 late).conversions = none ∧
      ∃ conversions, (convertBy job false 3 schedule).conversions = some conversions ∧
        conversions =
          [(Conversion.run options (.always false) (lines.take 2)).conversion,
            (Conversion.run options (.always false) (lines.drop 2)).conversion] ∧
        (convertBy job false 3 schedule).counted =
          3 + (conversions.map Conversion.errorsCount).sum := by
  intro options config lines job turns schedule late
  have hlines : lines.length < 2 ^ 63 := by decide
  have hsize : config.chunkSize < 2 ^ 64 := by decide
  have hschedule : schedule.IsComplete job false 3 :=
    ⟨State.isFinished_of_count job (by decide), by decide⟩
  have hlate : late.IsComplete job false 3 :=
    ⟨State.isFinished_of_count job (by decide), by decide⟩
  have hsees : (State.start job false 3).SeesCancelled job late.moves :=
    .inr (.inr (.inr (.inl ⟨rfl, by decide +kernel⟩)))
  obtain ⟨-, -, -, hconversions, -, hsome⟩ :=
    convertBy_scheduleIndependent options config lines false 3 schedule hlines hsize hschedule
  obtain ⟨-, -, -, -, hnone, -⟩ :=
    convertBy_scheduleIndependent options config lines false 3 late hlines hsize hlate
  obtain ⟨conversions, hconverted⟩ := Option.isSome_iff_exists.mp (hsome rfl (by decide))
  obtain ⟨hresults, hcounted⟩ := hconversions conversions hconverted
  have hcut : (List.range job.source.count).map job.source.chunk = [lines.take 2, lines.drop 2] := by
    decide +kernel
  change conversions = (List.range job.source.count).map
    ((fun chunk => (Conversion.run options (.always false) chunk).conversion) ∘ job.source.chunk)
    at hresults
  rw [← List.map_map, hcut] at hresults
  exact ⟨hlines, hsize, hschedule, hlate, hsees, hnone hsees, conversions, hconverted, hresults,
    hcounted⟩

end Lanes
end FilterCompiler
