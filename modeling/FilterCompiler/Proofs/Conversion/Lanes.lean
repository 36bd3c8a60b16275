import FilterCompiler.Proofs.Conversion.Lane
import Mathlib.Algebra.BigOperators.Group.Finset.Piecewise
import Mathlib.Algebra.Order.BigOperators.Group.Finset

/-!
# Lanes at work

Every chunk belongs to one lane (`flatMap_indices_perm`).  A move changes one lane
or cancels the token, and what holds of the lanes before a run is carried through
it move by move: the lanes take their chunks in order, so none is taken twice
(`takenBy_le`), and without cancellation the lanes stay right and the counter
agrees with what they have counted (`IsRight.run`).
-/

namespace FilterCompiler
namespace Lanes

/-! ## The chunks of the lanes -/

/-- A lane of `n` takes the chunks whose index is its number modulo `n`. -/
theorem mem_indices_iff
    {laneCount lane : Nat}
    (hlane : lane < laneCount)
    (chunkCount index : Nat) :
    index ∈ indices laneCount chunkCount lane ↔ index < chunkCount ∧ index % laneCount = lane := by
  have hpos : 0 < laneCount := by omega
  have hbound (k : Nat) :
      k < (chunkCount - lane + laneCount - 1) / laneCount ↔ lane + laneCount * k < chunkCount := by
    rw [Nat.lt_iff_add_one_le, Nat.le_div_iff_mul_le hpos, Nat.add_mul, Nat.one_mul,
      Nat.mul_comm laneCount k]
    omega
  -- the chunks of the lane are `lane + laneCount * k`
  simp only [indices, List.mem_range', hbound]
  constructor
  · rintro ⟨k, hk, rfl⟩
    rw [Nat.add_mul_mod_self_left, Nat.mod_eq_of_lt hlane]
    exact ⟨hk, rfl⟩
  · rintro ⟨hindex, rfl⟩
    have hsplit := Nat.mod_add_div index laneCount
    exact ⟨index / laneCount, by omega, by omega⟩

theorem nodup_indices
    {laneCount : Nat}
    (hlanes : 0 < laneCount)
    (chunkCount lane : Nat) :
    (indices laneCount chunkCount lane).Nodup :=
  List.nodup_range' _ hlanes

theorem Job.laneCount_pos
    (job : Job)
    (h : 0 < job.source.count) :
    0 < job.laneCount := by
  unfold laneCount
  omega

/-- **Every chunk belongs to one lane.** -/
theorem flatMap_indices_perm
    (job : Job) :
    ((List.range job.laneCount).flatMap job.indices).Perm (List.range job.source.count) := by
  have hmem {lane index : Nat} (h : lane < job.laneCount) :=
    mem_indices_iff h job.source.count index
  have hnodup : ((List.range job.laneCount).flatMap job.indices).Nodup := by
    rw [List.nodup_flatMap]
    constructor
    · intro lane hlane
      rw [List.mem_range] at hlane
      exact nodup_indices (by omega) _ _
    · refine List.nodup_range.imp_of_mem ?_
      intro lane other hlane hother hne index hindex hindex'
      rw [List.mem_range] at hlane hother
      exact hne (((hmem hlane).mp hindex).2.symm.trans ((hmem hother).mp hindex').2)
  rw [List.perm_ext_iff_of_nodup hnodup List.nodup_range]
  intro index
  rw [List.mem_flatMap, List.mem_range]
  constructor
  · rintro ⟨lane, hlane, hindex⟩
    exact ((hmem (List.mem_range.mp hlane)).mp hindex).1
  · intro hindex
    have hlane : index % job.laneCount < job.laneCount :=
      Nat.mod_lt _ (job.laneCount_pos (by omega))
    exact ⟨_, List.mem_range.mpr hlane, (hmem hlane).mpr ⟨hindex, rfl⟩⟩

theorem sum_indices
    (job : Job) :
    ∑ lane ∈ Finset.range job.laneCount, (job.indices lane : Multiset Nat) =
      (List.range job.source.count : Multiset Nat) := by
  rw [← Multiset.coe_eq_coe.mpr (flatMap_indices_perm job), ← Multiset.coe_bind]
  rfl

theorem sum_map_indices
    (job : Job)
    (f : Nat → Nat) :
    ∑ lane ∈ Finset.range job.laneCount, ((job.indices lane).map f).sum =
      ((List.range job.source.count).map f).sum := by
  have hsum :=
    congrArg (Multiset.sumAddMonoidHom.comp (Multiset.mapAddMonoidHom f)) (sum_indices job)
  rw [map_sum] at hsum
  simpa using hsum

/-! ## Moves -/

namespace State

/-- The lane of a number; where there is none it has nothing to do. -/
def lane (s : State) (number : Nat) : Lane := s.lanes[number]?.getD (.start [])

variable (job : Job) (s : State)

theorem lane_start
    (cancelled : Bool)
    (counter : Nat)
    {number : Nat}
    (h : number < job.laneCount) :
    (start job cancelled counter).lane number = .start (job.indices number) := by
  simp [lane, start, h]

theorem cancelled_step
    (number : Nat) :
    (s.move job (.step number)).cancelled = s.cancelled := by
  simp only [move]
  split <;> rfl

theorem size_move
    (m : Move) :
    (s.move job m).lanes.size = s.lanes.size := by
  cases m with
  | cancel => rfl
  | step number =>
      simp only [move]
      split <;> simp

theorem lane_step
    (number other : Nat) :
    (s.move job (.step number)).lane other =
      if other = number then ((s.lane number).step job s.cancelled).1 else s.lane other := by
  simp only [move]
  split
  · next h =>
      by_cases heq : other = number
      · subst heq
        simp [lane, h]
      · simp [lane, heq, Array.getElem?_set_ne h (Ne.symm heq)]
  · next h =>
      split
      · next heq =>
          subst heq
          simp [lane, h, Lane.start, Lane.step]
      · rfl

theorem counter_step
    (number : Nat) :
    (s.move job (.step number)).counter =
      s.counter + ((s.lane number).step job s.cancelled).2 := by
  simp only [move]
  split
  · next h => simp [lane, h]
  · next h => simp [lane, h, Lane.start, Lane.step]

theorem step_of_size_le
    {number : Nat}
    (h : s.lanes.size ≤ number)
    (cancelled : Bool) :
    (s.lane number).step job cancelled = (s.lane number, 0) := by
  simp [lane, h, Lane.start, Lane.step]

/-- **What a step adds to its lane it adds to the sum over all lanes.** -/
theorem sum_lane_step
    {M : Type}
    [AddCancelCommMonoid M]
    (f : Lane → M)
    {number : Nat}
    {added : M}
    (h : f ((s.lane number).step job s.cancelled).1 = f (s.lane number) + added) :
    ∑ other ∈ Finset.range s.lanes.size, f ((s.move job (.step number)).lane other) =
      ∑ other ∈ Finset.range s.lanes.size, f (s.lane other) + added := by
  have hadded :
      ∑ other ∈ Finset.range s.lanes.size, (if other = number then added else 0) = added := by
    rw [Finset.sum_ite_eq']
    split
    · rfl
    · next hnumber =>
        rw [Finset.mem_range, Nat.not_lt] at hnumber
        rw [step_of_size_le job s hnumber, left_eq_add] at h
        exact h.symm
  rw [← hadded, ← Finset.sum_add_distrib]
  apply Finset.sum_congr rfl
  intro other _
  rw [lane_step]
  split
  · next heq => rw [heq, h]
  · rw [add_zero]

/-! ## The token -/

/-- A cancelled token stays so. -/
theorem cancelled_move
    (m : Move)
    (h : s.cancelled) :
    (s.move job m).cancelled := by
  cases m with
  | cancel => rfl
  | step number => rw [cancelled_step, h]

theorem cancelled_run
    (moves : List Move)
    (h : s.cancelled) :
    (s.run job moves).cancelled := by
  induction moves generalizing s with
  | nil => exact h
  | cons m moves ih => exact ih (s.move job m) (s.cancelled_move job m h)

theorem cancelled_run_eq_false
    {moves : List Move}
    (h : s.cancelled = false)
    (hmoves : .cancel ∉ moves) :
    (s.run job moves).cancelled = false := by
  induction moves generalizing s with
  | nil => exact h
  | cons m moves ih =>
      rw [List.mem_cons, not_or] at hmoves
      cases m with
      | cancel => exact absurd rfl hmoves.1
      | step number => exact ih _ ((cancelled_step job s number).trans h) hmoves.2

/-- The move polls the token and finds it cancelled. -/
def FindsCancelled (s : State) : Move → Prop
  | .cancel => False
  | .step number => s.cancelled ∧ (s.lane number).polls

/-- Some poll during the moves finds the token cancelled. -/
def SeesCancelled (job : Job) : State → List Move → Prop
  | _, [] => False
  | s, m :: moves => s.FindsCancelled m ∨ SeesCancelled job (s.move job m) moves

/-- **If a poll finds the token cancelled, it is cancelled in the end.** -/
theorem cancelled_of_seesCancelled
    {moves : List Move}
    (h : s.SeesCancelled job moves) :
    (s.run job moves).cancelled := by
  induction moves generalizing s with
  | nil => exact h.elim
  | cons m moves ih =>
      rcases h with hfinds | hsees
      · cases m with
        | cancel => exact hfinds.elim
        | step number => exact s.cancelled_run job (.step number :: moves) hfinds.1
      · exact ih (s.move job m) hsees

theorem not_seesCancelled
    (moves : List Move)
    (h : s.lanes.size = 0) :
    ¬ s.SeesCancelled job moves := by
  induction moves generalizing s with
  | nil => exact not_false
  | cons m moves ih =>
      rintro (hfinds | hsees)
      · cases m with
        | cancel => exact hfinds
        | step number =>
            have hpolls := hfinds.2
            simp [lane, h, Lane.polls, Lane.start] at hpolls
      · exact ih (s.move job m) ((size_move job s m).trans h) hsees

/-! ## The chunks taken -/

/-- The chunk that is taken by the move, if one is. -/
def takes (s : State) : Move → List Nat
  | .cancel => []
  | .step number => ((s.lane number).takes? s.cancelled).toList

/-- The chunks that are taken during the moves, in order. -/
def takenBy (job : Job) : State → List Move → List Nat
  | _, [] => []
  | s, m :: moves => s.takes m ++ takenBy job (s.move job m) moves

/-- The chunks that the lanes have taken, counted with repetitions. -/
def allTaken (s : State) : Multiset Nat :=
  ∑ number ∈ Finset.range s.lanes.size, ((s.lane number).taken : Multiset Nat)

theorem allTaken_move
    (m : Move) :
    (s.move job m).allTaken = s.allTaken + (s.takes m : Multiset Nat) := by
  cases m with
  | cancel => exact (add_zero _).symm
  | step number =>
      rw [allTaken, size_move]
      apply sum_lane_step job s fun lane => (lane.taken : Multiset Nat)
      rw [(Lane.steps_step job s.cancelled (s.lane number)).taken, Multiset.coe_add]
      rfl

theorem allTaken_run
    (moves : List Move) :
    (s.run job moves).allTaken = s.allTaken + (s.takenBy job moves : Multiset Nat) := by
  induction moves generalizing s with
  | nil => exact (add_zero _).symm
  | cons m moves ih =>
      have hmove := ih (s.move job m)
      rw [allTaken_move, add_assoc, Multiset.coe_add] at hmove
      exact hmove

/-! ## What every run keeps -/

/-- The lanes of the job, each of which takes its chunks in order. -/
structure InOrder (job : Job) (s : State) : Prop where
  size : s.lanes.size = job.laneCount
  lanes : ∀ number < job.laneCount,
    (s.lane number).taken ++ (s.lane number).todo <+: job.indices number

theorem inOrder_start
    (cancelled : Bool)
    (counter : Nat) :
    InOrder job (start job cancelled counter) where
  size := by simp [start]
  lanes number hnumber := by
    rw [lane_start job cancelled counter hnumber]
    exact List.prefix_rfl

theorem InOrder.move
    {job : Job}
    {s : State}
    (h : InOrder job s)
    (m : Move) :
    InOrder job (s.move job m) := by
  refine ⟨(size_move job s m).trans h.size, ?_⟩
  intro number hnumber
  cases m with
  | cancel => exact h.lanes number hnumber
  | step stepped =>
      rw [lane_step]
      split
      · next heq =>
          subst heq
          exact (Lane.steps_step job s.cancelled _).taken_append_todo.trans (h.lanes _ hnumber)
      · exact h.lanes number hnumber

theorem InOrder.run
    {job : Job}
    {s : State}
    (h : InOrder job s)
    (moves : List Move) :
    InOrder job (s.run job moves) := by
  induction moves generalizing s with
  | nil => exact h
  | cons m moves ih => exact ih (h.move m)

/-- **Every chunk is taken at most once.** -/
theorem takenBy_le
    (cancelled : Bool)
    (counter : Nat)
    (moves : List Move) :
    ((start job cancelled counter).takenBy job moves : Multiset Nat) ≤
      (List.range job.source.count : Multiset Nat) := by
  have hstart := inOrder_start job cancelled counter
  have hrun := hstart.run moves
  have htaken := allTaken_run job (start job cancelled counter) moves
  have hnone : (start job cancelled counter).allTaken = 0 := by
    apply Finset.sum_eq_zero
    intro number hnumber
    rw [Finset.mem_range, hstart.size] at hnumber
    rw [lane_start job cancelled counter hnumber]
    rfl
  rw [hnone, zero_add] at htaken
  -- what a lane has taken is the first part of what it has to take
  rw [← htaken, ← sum_indices, allTaken, hrun.size]
  apply Finset.sum_le_sum
  intro number hnumber
  rw [Finset.mem_range] at hnumber
  have hinitial := (List.prefix_append _ _).trans (hrun.lanes number hnumber)
  exact hinitial.sublist.subperm

/-! ## Runs without cancellation -/

/-- The lanes of the job, all of them right, and the counter with their errors. -/
structure IsRight (job : Job) (counter : Nat) (s : State) : Prop where
  size : s.lanes.size = job.laneCount
  lanes : ∀ number < job.laneCount, (s.lane number).IsRight job (job.indices number)
  counter : s.counter =
    counter + ∑ number ∈ Finset.range s.lanes.size, (s.lane number).counted

theorem isRight_start
    (cancelled : Bool)
    (counter : Nat) :
    IsRight job counter (start job cancelled counter) := by
  have hsize := (inOrder_start job cancelled counter).size
  refine ⟨hsize, ?_, ?_⟩
  · intro number hnumber
    rw [lane_start job cancelled counter hnumber]
    exact .start job _
  · have hnone :
        ∑ number ∈ Finset.range (start job cancelled counter).lanes.size,
          ((start job cancelled counter).lane number).counted = 0 := by
      apply Finset.sum_eq_zero
      intro number hnumber
      rw [Finset.mem_range, hsize] at hnumber
      rw [lane_start job cancelled counter hnumber]
      rfl
    rw [hnone]
    rfl

/-- **A move that leaves the token alone keeps the lanes right.** -/
theorem IsRight.move
    {job : Job}
    {counter : Nat}
    {s : State}
    {m : Move}
    (h : IsRight job counter s)
    (hcancelled : (s.move job m).cancelled = false) :
    IsRight job counter (s.move job m) := by
  cases m with
  | cancel => cases hcancelled
  | step stepped =>
      rw [cancelled_step] at hcancelled
      have hsteps := Lane.steps_step job s.cancelled (s.lane stepped)
      rw [hcancelled] at hsteps
      refine ⟨(size_move job s _).trans h.size, ?_, ?_⟩
      · intro number hnumber
        rw [lane_step, hcancelled]
        split
        · next heq =>
            subst heq
            exact (h.lanes number hnumber).step hsteps
        · exact h.lanes number hnumber
      · rw [counter_step, size_move, h.counter, sum_lane_step job s Lane.counted ?_, add_assoc]
        rw [hcancelled]
        exact hsteps.counted

theorem IsRight.run
    {job : Job}
    {counter : Nat}
    {s : State}
    {moves : List Move}
    (h : IsRight job counter s)
    (hcancelled : (s.run job moves).cancelled = false) :
    IsRight job counter (s.run job moves) := by
  induction moves generalizing s with
  | nil => exact h
  | cons m moves ih =>
      have hmove : (s.move job m).cancelled = false := by
        rw [Bool.eq_false_iff]
        intro hmove
        have hrun := cancelled_run job (s.move job m) moves hmove
        exact Bool.false_ne_true (hcancelled.symm.trans hrun)
      exact ih (h.move hmove) hcancelled

end State
end Lanes
end FilterCompiler
