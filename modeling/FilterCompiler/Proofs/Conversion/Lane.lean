import FilterCompiler.Conversion.Lanes
import Mathlib.Tactic.Ring

/-!
# One lane

What a step of a lane can do is said once, by `Lane.Steps`; the other facts are
read off it.  A step adds at most one chunk to those that the lane has taken, and
takes none back, so those taken and those left stay a prefix of the chunks with
which the lane began.  Without cancellation they are all of them, every result is
that of its chunk converted alone, and the errors that the lane counts are those
of its results.  A lane that is given enough steps finishes.
-/

namespace FilterCompiler
namespace Lanes

/-- What a chunk comes to when it is converted alone. -/
def Job.result (job : Job) (index : Nat) : Conversion :=
  (Conversion.run job.options (.always false) (job.source.chunk index)).conversion

namespace Phase

def index? : Phase → Option Nat
  | .idle => none
  | .entering index | .reading index | .resolved index _ | .assembled index _ => some index

@[simp] theorem index?_idle : idle.index? = none := rfl

/-- The number of steps up to the end of the chunk. -/
def remaining : Phase → Nat
  | .idle => 0
  | .entering _ => 4
  | .reading _ => 3
  | .resolved _ _ => 2
  | .assembled _ _ => 1

@[simp] theorem remaining_idle : idle.remaining = 0 := rfl

theorem remaining_pos
    {phase : Phase}
    {index : Nat}
    (h : phase.index? = some index) :
    0 < phase.remaining := by
  cases phase with
  | idle => cases h
  | _ => exact Nat.succ_pos _

/-- The errors that have been counted for the chunk. -/
def counted : Phase → Nat
  | .resolved _ batch => batch.errors
  | .assembled _ conversion => conversion.errorsCount
  | .idle | .entering _ | .reading _ => 0

/-- What the lane has found out about the chunk is right. -/
def IsRight (job : Job) : Phase → Prop
  | .resolved index batch =>
      batch = RuleBatch.ofLines job.options.version (job.source.chunk index)
  | .assembled index conversion => conversion = job.result index
  | .idle | .entering _ | .reading _ => True

end Phase

namespace Lane

/-- The chunks that the lane has taken, in order. -/
def taken (lane : Lane) : List Nat := lane.results.map Prod.fst ++ lane.phase.index?.toList

/-- The chunk that the lane takes in its next step, if it takes one. -/
def takes? (cancelled : Bool) (lane : Lane) : Option Nat :=
  match lane.phase, lane.todo with
  | .idle, index :: _ => if cancelled then none else some index
  | _, _ => none

/-- The next step of the lane polls the token. -/
def polls (lane : Lane) : Bool :=
  match lane.phase with
  | .idle => !lane.todo.isEmpty
  | .reading _ => false
  | .entering _ | .resolved _ _ | .assembled _ _ => true

def remaining (lane : Lane) : Nat := stepsPerChunk * lane.todo.length + lane.phase.remaining

def counted (lane : Lane) : Nat :=
  (lane.done.map (·.2.errorsCount)).sum + lane.phase.counted

/-! ## What a step can do -/

/-- A step of a lane, with the token cancelled or not, and the errors that it
counts. -/
inductive Steps (job : Job) : Bool → Lane → Lane → Nat → Prop
  /-- There is nothing left to do. -/
  | rest (cancelled : Bool) (done : List (Nat × Conversion)) :
      Steps job cancelled ⟨.idle, [], done⟩ ⟨.idle, [], done⟩ 0
  /-- No further chunk is taken. -/
  | stop (index : Nat) (todo : List Nat) (done : List (Nat × Conversion)) :
      Steps job true ⟨.idle, index :: todo, done⟩ ⟨.idle, [], done⟩ 0
  | take (index : Nat) (todo : List Nat) (done : List (Nat × Conversion)) :
      Steps job false ⟨.idle, index :: todo, done⟩ ⟨.entering index, todo, done⟩ 0
  | enter (index : Nat) (todo : List Nat) (done : List (Nat × Conversion)) :
      Steps job false ⟨.entering index, todo, done⟩ ⟨.reading index, todo, done⟩ 0
  | read (cancelled : Bool) (index : Nat) (todo : List Nat) (done : List (Nat × Conversion)) :
      Steps job cancelled ⟨.reading index, todo, done⟩
        ⟨.resolved index (RuleBatch.ofLines job.options.version (job.source.chunk index)), todo,
          done⟩
        (RuleBatch.ofLines job.options.version (job.source.chunk index)).errors
  | assemble (index : Nat) (batch : RuleBatch) (todo : List Nat)
      (done : List (Nat × Conversion)) :
      Steps job false ⟨.resolved index batch, todo, done⟩
        ⟨.assembled index
          (Conversion.ofBatch job.options (job.source.chunk index).length batch), todo, done⟩ 0
  | handOut (index : Nat) (conversion : Conversion) (todo : List Nat)
      (done : List (Nat × Conversion)) :
      Steps job false ⟨.assembled index conversion, todo, done⟩
        ⟨.idle, todo, (index, conversion) :: done⟩ 0
  /-- The conversion of the chunk comes to the empty one. -/
  | giveUp {phase : Phase} {index : Nat} (hindex : phase.index? = some index)
      (hreading : phase ≠ .reading index) (todo : List Nat) (done : List (Nat × Conversion)) :
      Steps job true ⟨phase, todo, done⟩ ⟨.idle, todo, (index, .empty) :: done⟩ 0

theorem steps_step
    (job : Job)
    (cancelled : Bool)
    (lane : Lane) :
    Steps job cancelled lane (lane.step job cancelled).1 (lane.step job cancelled).2 := by
  obtain ⟨phase, todo, done⟩ := lane
  cases phase with
  | idle =>
      cases todo with
      | nil => exact .rest cancelled done
      | cons index todo =>
          cases cancelled with
          | false => exact .take index todo done
          | true => exact .stop index todo done
  | entering index =>
      cases cancelled with
      | false => exact .enter index todo done
      | true => exact .giveUp rfl Phase.noConfusion todo done
  | reading index => exact .read cancelled index todo done
  | resolved index batch =>
      cases cancelled with
      | false => exact .assemble index batch todo done
      | true => exact .giveUp rfl Phase.noConfusion todo done
  | assembled index conversion =>
      cases cancelled with
      | false => exact .handOut index conversion todo done
      | true => exact .giveUp rfl Phase.noConfusion todo done

section

variable {job : Job} {cancelled : Bool} {lane after : Lane} {errors : Nat}

/-! ## The chunks taken -/

theorem takes?_true
    (lane : Lane) :
    lane.takes? true = none := by
  unfold takes?
  split <;> rfl

/-- **A step takes one more chunk or none**, and takes none back. -/
theorem Steps.taken
    (h : Steps job cancelled lane after errors) :
    after.taken = lane.taken ++ (lane.takes? cancelled).toList := by
  cases h with
  | giveUp hindex hreading todo done =>
      rw [takes?_true]
      simp [Lane.taken, results, hindex]
  | _ => simp [Lane.taken, takes?, results, Phase.index?]

theorem Steps.taken_append_todo
    (h : Steps job cancelled lane after errors) :
    after.taken ++ after.todo <+: lane.taken ++ lane.todo := by
  cases h with
  | giveUp hindex hreading todo done => simp [Lane.taken, results, hindex]
  | _ => simp [Lane.taken, results, Phase.index?]

/-! ## Steps without cancellation -/

/-- The lane has taken the chunks with which it began or has still to take them,
and all that it has found out is right. -/
structure IsRight (job : Job) (chunks : List Nat) (lane : Lane) : Prop where
  chunks : lane.taken ++ lane.todo = chunks
  results : ∀ p ∈ lane.done, p.2 = job.result p.1
  phase : lane.phase.IsRight job

theorem IsRight.start
    (job : Job)
    (chunks : List Nat) :
    IsRight job chunks (.start chunks) where
  chunks := rfl
  results _ hp := by cases hp
  phase := trivial

/-- A batch of rules that is right gives a conversion that is right. -/
theorem result_eq_ofBatch
    (job : Job)
    (index : Nat) :
    job.result index =
      Conversion.ofBatch job.options (job.source.chunk index).length
        (RuleBatch.ofLines job.options.version (job.source.chunk index)) := rfl

/-- **A step without cancellation keeps the lane right.** -/
theorem IsRight.step
    {chunks : List Nat}
    (hright : IsRight job chunks lane)
    (h : Steps job false lane after errors) :
    IsRight job chunks after := by
  obtain ⟨hchunks, hresults, hphase⟩ := hright
  cases h with
  | rest => exact ⟨hchunks, hresults, hphase⟩
  | take index todo done =>
      refine ⟨?_, hresults, trivial⟩
      simpa [Lane.taken, Lane.results, Phase.index?] using hchunks
  | enter index todo done => exact ⟨hchunks, hresults, trivial⟩
  | read _ index todo done => exact ⟨hchunks, hresults, rfl⟩
  | assemble index batch todo done =>
      refine ⟨hchunks, hresults, ?_⟩
      cases hphase
      exact (result_eq_ofBatch job index).symm
  | handOut index conversion todo done =>
      refine ⟨?_, ?_, trivial⟩
      · simpa [Lane.taken, Lane.results, Phase.index?] using hchunks
      · exact List.forall_mem_cons.mpr ⟨hphase, hresults⟩

theorem Steps.counted
    (h : Steps job false lane after errors) :
    after.counted = lane.counted + errors := by
  cases h with
  | handOut index conversion todo done =>
      simp only [Lane.counted, Phase.counted, List.map_cons, List.sum_cons]
      omega
  | _ => rfl

/-! ## Finishing -/

/-- **A step brings a lane nearer to its end.** -/
theorem Steps.remaining_le
    (h : Steps job cancelled lane after errors) :
    after.remaining ≤ lane.remaining - 1 := by
  cases h with
  | giveUp hindex hreading todo done =>
      have hpos := Phase.remaining_pos hindex
      simp only [Lane.remaining, Phase.remaining_idle]
      omega
  | _ =>
      simp only [Lane.remaining, Phase.remaining, List.length_cons, List.length_nil, stepsPerChunk]
      omega

theorem isFinished_iff
    (lane : Lane) :
    lane.isFinished ↔ lane.remaining = 0 := by
  obtain ⟨phase, todo, done⟩ := lane
  cases phase with
  | idle => cases todo <;> simp [isFinished, Lane.remaining, stepsPerChunk]
  | _ => simp [isFinished, Lane.remaining, Phase.remaining]

theorem idle_of_isFinished
    (h : lane.isFinished) :
    lane.phase = .idle ∧ lane.todo = [] := by
  unfold isFinished at h
  split at h
  · next hphase htodo => exact ⟨hphase, htodo⟩
  · cases h

/-- **A lane that is right and has finished has a result for each of its chunks.** -/
theorem IsRight.results_of_isFinished
    {chunks : List Nat}
    (hright : IsRight job chunks lane)
    (hfinished : lane.isFinished) :
    lane.results.map Prod.fst = chunks := by
  obtain ⟨hphase, htodo⟩ := idle_of_isFinished hfinished
  simpa [Lane.taken, hphase, htodo] using hright.chunks

theorem IsRight.counted_of_isFinished
    {chunks : List Nat}
    (hright : IsRight job chunks lane)
    (hfinished : lane.isFinished) :
    lane.counted = (chunks.map fun index => (job.result index).errorsCount).sum := by
  have hresults := hright.results_of_isFinished hfinished
  obtain ⟨hphase, -⟩ := idle_of_isFinished hfinished
  have hdone :
      lane.done.map (·.2.errorsCount) =
        lane.done.map fun p => (job.result p.1).errorsCount := by
    apply List.map_congr_left
    intro p hp
    rw [hright.results p hp]
  rw [← hresults, Lane.counted, hphase, hdone, Lane.results, List.map_map, List.map_reverse,
    List.sum_reverse]
  rfl

end
end Lane
end Lanes
end FilterCompiler
