import FilterCompiler.Conversion.Chunks

/-!
# Conversion on lanes

Chunks are converted on several lanes at once. Lane `k` of `n` takes the chunks `k`, `k + n`, … one
after another. The lanes share a token, which someone may cancel at any moment and which is never
reset, and a counter of errors.

The steps of a lane are atomic: it polls the token before it takes a chunk, and the conversion of the
chunk polls it at its start, after the rules have been resolved and after the ruleset has been
assembled. Between the first two of these polls it reads the lines and counts their errors. A
conversion that finds the token cancelled comes to the empty conversion. When all lanes have
finished, the token is polled for the last time.

A schedule is any list of moves, each a step of some lane or the cancellation, and the order in which
the lanes are joined in the end. `Lanes.convertBy` follows a schedule; `Lanes.convert` runs one lane
after the other.
-/

namespace FilterCompiler
namespace Lanes

/-- How a list is cut and on how many lanes its chunks are converted. -/
structure Config where
  chunkSize : Nat
  lanes : Nat
deriving DecidableEq, Repr

/-- The chunks that a lane takes, in order. -/
def indices (laneCount chunkCount lane : Nat) : List Nat :=
  List.range' lane ((chunkCount - lane + laneCount - 1) / laneCount) laneCount

/-- What a lane does next with the chunk of the given index. -/
inductive Phase where
  /-- It has no chunk; it polls the token and takes the next one. -/
  | idle
  /-- The conversion polls the token at its start. -/
  | entering (index : Nat)
  /-- The lines are read. -/
  | reading (index : Nat)
  /-- The token is polled before the ruleset is assembled. -/
  | resolved (index : Nat) (batch : RuleBatch)
  /-- The token is polled before the result is handed out. -/
  | assembled (index : Nat) (conversion : Conversion)

/-- A lane: what it does next, the chunks it still has to take, and its results so far, the latest
one first. -/
structure Lane where
  phase : Phase
  todo : List Nat
  done : List (Nat × Conversion)

/-- What all lanes share, and the lanes. -/
structure State where
  cancelled : Bool
  counter : Nat
  lanes : Array Lane

/-- A conversion of some chunks. -/
structure Job where
  options : ConversionOptions
  source : ChunkedLines
  /-- The number of lanes that are asked for. -/
  lanes : Nat

namespace Job

/-- The conversion of some lines. -/
def ofLines (options : ConversionOptions) (config : Config) (lines : List String) : Job :=
  { options, source := .ofLines config.chunkSize lines, lanes := config.lanes }

/-- The number of lanes that are used: at least one if there is a chunk, and no more than chunks. -/
def laneCount (job : Job) : Nat := min (max 1 job.lanes) job.source.count

/-- The chunks that a lane takes, in order. -/
def indices (job : Job) (lane : Nat) : List Nat :=
  Lanes.indices job.laneCount job.source.count lane

end Job

namespace Lane

/-- The lane before its first step. -/
def start (todo : List Nat) : Lane := { phase := .idle, todo, done := [] }

/-- The lane with one more result. -/
def finish (lane : Lane) (index : Nat) (conversion : Conversion) : Lane :=
  { lane with phase := .idle, done := (index, conversion) :: lane.done }

/-- The results of the lane in the order in which it came to them. -/
def results (lane : Lane) : List (Nat × Conversion) := lane.done.reverse

/-- The lane has nothing left to do. -/
def isFinished (lane : Lane) : Bool :=
  match lane.phase, lane.todo with
  | .idle, [] => true
  | _, _ => false

/-- The lane after its next step, and the number of errors that the step counts. -/
def step (job : Job) (cancelled : Bool) (lane : Lane) : Lane × Nat :=
  match lane.phase with
  | .idle =>
      match lane.todo with
      | [] => (lane, 0)
      | index :: todo =>
          if cancelled then ({ lane with todo := [] }, 0)
          else ({ lane with phase := .entering index, todo }, 0)
  | .entering index =>
      if cancelled then (lane.finish index .empty, 0) else ({ lane with phase := .reading index }, 0)
  | .reading index =>
      let batch := RuleBatch.ofLines job.options.version (job.source.chunk index)
      ({ lane with phase := .resolved index batch }, batch.errors)
  | .resolved index batch =>
      if cancelled then (lane.finish index .empty, 0)
      else
        let conversion := Conversion.ofBatch job.options (job.source.chunk index).length batch
        ({ lane with phase := .assembled index conversion }, 0)
  | .assembled index conversion =>
      (lane.finish index (if cancelled then .empty else conversion), 0)

end Lane

/-- What may happen next. -/
inductive Move where
  | cancel
  | step (lane : Nat)
deriving DecidableEq, Repr

namespace State

/-- The state before the first move. -/
def start (job : Job) (cancelled : Bool) (counter : Nat) : State :=
  { cancelled
    counter
    lanes := ((List.range job.laneCount).map fun lane => Lane.start (job.indices lane)).toArray }

/-- The state after a move; a step of a lane that is not there changes nothing. -/
def move (job : Job) (s : State) : Move → State
  | .cancel => { s with cancelled := true }
  | .step lane =>
      if h : lane < s.lanes.size then
        let (after, errors) := s.lanes[lane].step job s.cancelled
        { s with counter := s.counter + errors, lanes := s.lanes.set lane after }
      else s

/-- The state after some moves. -/
def run (job : Job) (s : State) (moves : List Move) : State := moves.foldl (move job) s

/-- All lanes have finished. -/
def isFinished (s : State) : Bool := s.lanes.all Lane.isFinished

/-- The results of some lanes by index, written down one lane after the other; a chunk without result
comes to the empty conversion. -/
def collect (chunkCount : Nat) (lanes : List Lane) : List Conversion :=
  ((lanes.flatMap Lane.results).foldl (fun found p => found.setIfInBounds p.1 p.2)
    (Array.replicate chunkCount Conversion.empty)).toList

/-- The lanes of the given numbers. -/
def lanesAt (s : State) (numbers : List Nat) : List Lane := numbers.filterMap (s.lanes[·]?)

/-- What the lanes come to when all have finished and are joined in some order, unless the token has
been cancelled. -/
def outcome (s : State) (chunkCount : Nat) (joins : List Nat) : Option (List Conversion) :=
  if s.cancelled then none else some (collect chunkCount (s.lanesAt joins))

end State

/-! ## Schedules -/

/-- What happens while lanes run, and the order in which the lanes are joined. -/
structure Schedule where
  moves : List Move
  joins : List Nat
deriving DecidableEq, Repr

/-- A conversion on lanes and what the counter of errors has come to; no conversion if it has been
cancelled. -/
structure Outcome where
  conversions : Option (List Conversion)
  counted : Nat

/-- Converts on lanes as the schedule says. -/
def convertBy (job : Job) (cancelled : Bool) (counter : Nat) (schedule : Schedule) : Outcome :=
  if job.source.count = 0 then { conversions := some [], counted := counter }
  else
    let s := (State.start job cancelled counter).run job schedule.moves
    { conversions := s.outcome job.source.count schedule.joins, counted := s.counter }

/-- The number of steps that a lane takes at most for one chunk. -/
def stepsPerChunk : Nat := 5

/-- The schedule that runs one lane after the other. -/
def oneByOne (job : Job) : Schedule :=
  { moves :=
      (List.range job.laneCount).flatMap fun lane =>
        List.replicate (stepsPerChunk * (job.indices lane).length) (.step lane)
    joins := List.range job.laneCount }

/-- Converts lines on lanes, with a token that is cancelled from the start or never. -/
def convert (options : ConversionOptions) (config : Config) (cancelled : Bool)
    (lines : List String) : Outcome :=
  let job := Job.ofLines options config lines
  convertBy job cancelled 0 (oneByOne job)

end Lanes
end FilterCompiler
