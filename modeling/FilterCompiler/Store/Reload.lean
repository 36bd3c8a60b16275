/-!
# Reloading rulesets

After rulesets have been written the host is asked to reload each of them. A reloader may fail, may
remember what it was asked before, and is asked again a limited number of times.
-/

namespace FilterCompiler

/-- Asks the host to reload a ruleset. The state is whatever the reloader remembers. -/
abbrev Reloader (σ ε : Type) := String → σ → Except ε Unit × σ

/-- What happens while rulesets are reloaded. Attempts are counted from 1 for each ruleset. -/
inductive ReloadEvent (ε : Type) where
  | reloaded (id : String) (attempt : Nat)
  | failed (id : String) (attempt : Nat) (fault : ε)
  /-- No attempt is left. -/
  | gaveUp (id : String)

namespace ReloadEvent

variable {ε : Type}

/-- The ruleset for which the reloader was called, if the event is a call. -/
def called? : ReloadEvent ε → Option String
  | reloaded id _ => some id
  | failed id _ _ => some id
  | gaveUp _ => none

/-- The ruleset that never reloaded, if the event says so. -/
def givenUp? : ReloadEvent ε → Option String
  | gaveUp id => some id
  | _ => none

end ReloadEvent

namespace Reloader

variable {σ ε : Type}

/-- Calls the reloader until it succeeds, but `attempts` times at most; `attempt` is the number of
the first of these calls. -/
def attemptFrom (reloader : Reloader σ ε) (id : String) (attempt : Nat) :
    Nat → σ → List (ReloadEvent ε) × σ
  | 0, s => ([.gaveUp id], s)
  | attempts + 1, s =>
      match reloader id s with
      | (.ok (), s) => ([.reloaded id attempt], s)
      | (.error fault, s) =>
          let (events, s) := attemptFrom reloader id (attempt + 1) attempts s
          (.failed id attempt fault :: events, s)

/-- Reloads every ruleset of a list, in order, with at least one attempt for each. -/
def reloadAll (reloader : Reloader σ ε) (maxAttempts : Nat) :
    List String → σ → List (ReloadEvent ε) × σ
  | [], s => ([], s)
  | id :: ids, s =>
      let (first, s) := attemptFrom reloader id 1 (max maxAttempts 1) s
      let (rest, s) := reloadAll reloader maxAttempts ids s
      (first ++ rest, s)

end Reloader

/-- The rulesets that never reloaded, in order. -/
def neverReloaded {ε : Type} (events : List (ReloadEvent ε)) : List String :=
  events.filterMap ReloadEvent.givenUp?

/-- The rulesets for which the reloader was called, in order. -/
def reloadCalls {ε : Type} (events : List (ReloadEvent ε)) : List String :=
  events.filterMap ReloadEvent.called?

end FilterCompiler
