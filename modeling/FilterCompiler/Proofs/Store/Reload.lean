import FilterCompiler.Store.Reload

/-!
# The calls that reloading makes

Reloading a list of rulesets is a list of rounds, one for each place in the list: calls
for the same ruleset that fail until one succeeds or no attempt is left.  Every reloader
answers to the calls of some rounds as they say (`exists_isRun`).  Reloading makes the
calls of such rounds, one after the other, and reports the rulesets of those in which
every call failed (`reloadAll_rounds`).
-/

namespace FilterCompiler

variable {σ ε : Type}

/-- The calls for one ruleset, of which there are `attempts` at most: only the last one may
succeed, and if it does not there is no attempt left. -/
inductive ReloadRound (ε : Type) (attempts : Nat) where
  | reloaded (id : String) (faults : List ε) (h : faults.length < attempts)
  | gaveUp (id : String) (faults : List ε) (h : faults.length = attempts)

namespace ReloadRound

variable {attempts : Nat}

/-- The ruleset that is reloaded. -/
def ruleset : ReloadRound ε attempts → String
  | reloaded id _ _ => id
  | gaveUp id _ _ => id

/-- What the reloader answers to the calls. -/
def answers : ReloadRound ε attempts → List (Except ε Unit)
  | reloaded _ faults _ => faults.map .error ++ [.ok ()]
  | gaveUp _ faults _ => faults.map .error

/-- The rulesets of the calls. -/
def calls (round : ReloadRound ε attempts) : List String :=
  List.replicate round.answers.length round.ruleset

/-- Every call failed. -/
def hasFailed (round : ReloadRound ε attempts) : Bool :=
  round.answers.all fun answer => !answer.isOk

/-- The failures of calls that are counted from `attempt`. -/
def failures (id : String) (attempt : Nat) : List ε → List (ReloadEvent ε)
  | [] => []
  | fault :: faults => .failed id attempt fault :: failures id (attempt + 1) faults

/-- What is said of a round whose calls are counted from `attempt`. -/
def eventsFrom (attempt : Nat) : ReloadRound ε attempts → List (ReloadEvent ε)
  | reloaded id faults _ =>
      failures id attempt faults ++ [.reloaded id (attempt + faults.length)]
  | gaveUp id faults _ => failures id attempt faults ++ [.gaveUp id]

/-- The round with one more failure in front. -/
def afterFault (fault : ε) : ReloadRound ε attempts → ReloadRound ε (attempts + 1)
  | reloaded id faults h => reloaded id (fault :: faults) (Nat.succ_lt_succ h)
  | gaveUp id faults h => gaveUp id (fault :: faults) (congrArg Nat.succ h)

theorem ruleset_afterFault
    (fault : ε)
    (round : ReloadRound ε attempts) :
    (round.afterFault fault).ruleset = round.ruleset := by
  cases round <;> rfl

theorem answers_afterFault
    (fault : ε)
    (round : ReloadRound ε attempts) :
    (round.afterFault fault).answers = .error fault :: round.answers := by
  cases round <;> rfl

theorem calls_afterFault
    (fault : ε)
    (round : ReloadRound ε attempts) :
    (round.afterFault fault).calls = round.ruleset :: round.calls := by
  rw [calls, answers_afterFault, ruleset_afterFault, List.length_cons, List.replicate_succ, calls]

theorem eventsFrom_afterFault
    (fault : ε)
    (round : ReloadRound ε attempts)
    (attempt : Nat) :
    (round.afterFault fault).eventsFrom attempt =
      .failed round.ruleset attempt fault :: round.eventsFrom (attempt + 1) := by
  cases round with
  | reloaded id faults h =>
      have hlast : attempt + (fault :: faults).length = attempt + 1 + faults.length := by
        rw [List.length_cons]
        omega
      rw [afterFault, eventsFrom, hlast]
      rfl
  | gaveUp id faults h => rfl

theorem eq_gaveUp
    (round : ReloadRound ε 0) :
    round = gaveUp round.ruleset [] rfl := by
  cases round with
  | reloaded id faults h => exact absurd h (Nat.not_lt_zero _)
  | gaveUp id faults h =>
      obtain rfl := List.length_eq_zero_iff.mp h
      rfl

/-- The first call succeeds, or it fails and a round with one attempt less follows. -/
theorem eq_reloaded_or_afterFault
    (round : ReloadRound ε (attempts + 1)) :
    (∃ id, round = reloaded id [] attempts.succ_pos) ∨ ∃ fault rest, round = afterFault fault rest := by
  cases round with
  | reloaded id faults h =>
      cases faults with
      | nil => exact .inl ⟨id, rfl⟩
      | cons fault faults =>
          exact .inr ⟨fault, reloaded id faults (Nat.lt_of_succ_lt_succ h), rfl⟩
  | gaveUp id faults h =>
      cases faults with
      | nil => exact absurd h (Nat.succ_ne_zero attempts).symm
      | cons fault faults => exact .inr ⟨fault, gaveUp id faults (Nat.succ.inj h), rfl⟩

theorem reloadCalls_failures
    (id : String)
    (attempt : Nat)
    (faults : List ε) :
    reloadCalls (failures id attempt faults) = List.replicate faults.length id := by
  induction faults generalizing attempt with
  | nil => rfl
  | cons fault faults ih =>
      rw [failures, List.length_cons, List.replicate_succ, ← ih (attempt + 1)]
      rfl

theorem neverReloaded_failures
    (id : String)
    (attempt : Nat)
    (faults : List ε) :
    neverReloaded (failures id attempt faults) = [] := by
  induction faults generalizing attempt with
  | nil => rfl
  | cons fault faults ih => exact ih (attempt + 1)

theorem reloadCalls_append
    (events events' : List (ReloadEvent ε)) :
    reloadCalls (events ++ events') = reloadCalls events ++ reloadCalls events' :=
  List.filterMap_append

theorem neverReloaded_append
    (events events' : List (ReloadEvent ε)) :
    neverReloaded (events ++ events') = neverReloaded events ++ neverReloaded events' :=
  List.filterMap_append

/-- The calls that are told are the calls of the round. -/
theorem reloadCalls_eventsFrom
    (round : ReloadRound ε attempts)
    (attempt : Nat) :
    reloadCalls (round.eventsFrom attempt) = round.calls := by
  cases round with
  | reloaded id faults h =>
      rw [eventsFrom, reloadCalls_append, reloadCalls_failures, calls, answers, List.length_append,
        List.length_map, ← List.replicate_append_replicate]
      rfl
  | gaveUp id faults h =>
      rw [eventsFrom, reloadCalls_append, reloadCalls_failures, calls, answers, List.length_map]
      exact List.append_nil _

/-- The ruleset is given up if every call of the round failed. -/
theorem neverReloaded_eventsFrom
    (round : ReloadRound ε attempts)
    (attempt : Nat) :
    neverReloaded (round.eventsFrom attempt) = if round.hasFailed then [round.ruleset] else [] := by
  cases round with
  | reloaded id faults h =>
      have hfailed : (reloaded id faults h).hasFailed = false := by
        simp [hasFailed, answers, Except.isOk, Except.toBool]
      rw [eventsFrom, neverReloaded_append, neverReloaded_failures, hfailed]
      rfl
  | gaveUp id faults h =>
      have hfailed : (gaveUp id faults h).hasFailed = true := by
        simp [hasFailed, answers, Except.isOk, Except.toBool]
      rw [eventsFrom, neverReloaded_append, neverReloaded_failures, hfailed]
      rfl

theorem reloadCalls_flatMap
    (rounds : List (ReloadRound ε attempts)) :
    reloadCalls (rounds.flatMap (eventsFrom 1)) = rounds.flatMap calls := by
  induction rounds with
  | nil => rfl
  | cons round rounds ih =>
      rw [List.flatMap_cons, List.flatMap_cons, reloadCalls_append, reloadCalls_eventsFrom, ih]

theorem neverReloaded_flatMap
    (rounds : List (ReloadRound ε attempts)) :
    neverReloaded (rounds.flatMap (eventsFrom 1)) = (rounds.filter hasFailed).map ruleset := by
  induction rounds with
  | nil => rfl
  | cons round rounds ih =>
      rw [List.flatMap_cons, neverReloaded_append, neverReloaded_eventsFrom, ih, List.filter_cons]
      split <;> rfl

end ReloadRound

namespace Reloader

/-- What a reloader answers to calls that are made one after the other, each of them in the
state that the one before has left, and the state after the last one. -/
def answers (reloader : Reloader σ ε) : List String → σ → List (Except ε Unit) × σ
  | [], s => ([], s)
  | id :: calls, s =>
      let (answer, s) := reloader id s
      let (rest, s) := answers reloader calls s
      (answer :: rest, s)

variable {reloader : Reloader σ ε}

theorem answers_cons_eq_iff
    {id : String}
    {calls : List String}
    {s s' : σ}
    {answer : Except ε Unit}
    {rest : List (Except ε Unit)} :
    reloader.answers (id :: calls) s = (answer :: rest, s') ↔
      ∃ s₁, reloader id s = (answer, s₁) ∧ reloader.answers calls s₁ = (rest, s') := by
  rw [answers]
  constructor
  · intro h
    obtain ⟨hanswers, hs'⟩ := Prod.mk.inj h
    obtain ⟨rfl, rfl⟩ := List.cons.inj hanswers
    exact ⟨_, rfl, Prod.ext rfl hs'⟩
  · rintro ⟨s₁, hcall, hrest⟩
    rw [hcall]
    simp only [hrest]

theorem answers_append_eq_iff
    {calls calls' : List String}
    {s s' : σ}
    {first rest : List (Except ε Unit)}
    (hlength : first.length = calls.length) :
    reloader.answers (calls ++ calls') s = (first ++ rest, s') ↔
      ∃ s₁, reloader.answers calls s = (first, s₁) ∧ reloader.answers calls' s₁ = (rest, s') := by
  induction calls generalizing s first with
  | nil =>
      obtain rfl := List.length_eq_zero_iff.mp hlength
      simp [answers]
  | cons id calls ih =>
      obtain ⟨answer, first, rfl⟩ := List.exists_cons_of_length_eq_add_one hlength
      simp only [List.cons_append, answers_cons_eq_iff, ih (Nat.succ.inj hlength)]
      constructor
      · rintro ⟨s₁, hcall, s₂, hfirst, hrest⟩
        exact ⟨s₂, ⟨s₁, hcall, hfirst⟩, hrest⟩
      · rintro ⟨s₂, ⟨s₁, hcall, hfirst⟩, hrest⟩
        exact ⟨s₁, hcall, s₂, hfirst, hrest⟩

/-! ## One round -/

/-- The reloader answers to the calls of a round as the round says, and turns from `s` to `s'`. -/
def Answers (reloader : Reloader σ ε) {attempts : Nat} (round : ReloadRound ε attempts)
    (s s' : σ) : Prop :=
  reloader.answers round.calls s = (round.answers, s')

variable {attempts : Nat}

theorem answers_reloaded_iff
    {id : String}
    {h : ([] : List ε).length < attempts}
    {s s' : σ} :
    reloader.Answers (.reloaded id [] h) s s' ↔ reloader id s = (.ok (), s') := by
  have hcalls : (ReloadRound.reloaded id [] h).calls = [id] := rfl
  have hanswers : (ReloadRound.reloaded id [] h).answers = [.ok ()] := rfl
  rw [Answers, hcalls, hanswers, answers_cons_eq_iff]
  simp [answers]

theorem answers_afterFault_iff
    {fault : ε}
    {round : ReloadRound ε attempts}
    {s s' : σ} :
    reloader.Answers (round.afterFault fault) s s' ↔
      ∃ s₁, reloader round.ruleset s = (.error fault, s₁) ∧ reloader.Answers round s₁ s' := by
  rw [Answers, round.calls_afterFault, round.answers_afterFault]
  exact answers_cons_eq_iff

/-- Whatever a reloader does, it makes a round. -/
theorem exists_answers
    (reloader : Reloader σ ε)
    (id : String)
    (attempts : Nat)
    (s : σ) :
    ∃ (round : ReloadRound ε attempts) (s' : σ),
      round.ruleset = id ∧ reloader.Answers round s s' := by
  induction attempts generalizing s with
  | zero => exact ⟨.gaveUp id [] rfl, s, rfl, rfl⟩
  | succ attempts ih =>
      rcases hcall : reloader id s with ⟨fault | ⟨⟩, s₁⟩
      · obtain ⟨round, s', rfl, hanswers⟩ := ih s₁
        exact ⟨round.afterFault fault, s', round.ruleset_afterFault fault,
          answers_afterFault_iff.mpr ⟨s₁, hcall, hanswers⟩⟩
      · exact ⟨.reloaded id [] attempts.succ_pos, s₁, rfl, answers_reloaded_iff.mpr hcall⟩

/-- Trying again makes the round that the reloader answers to. -/
theorem Answers.attemptFrom_eq
    {round : ReloadRound ε attempts}
    {s s' : σ}
    (h : reloader.Answers round s s')
    (attempt : Nat) :
    reloader.attemptFrom round.ruleset attempt attempts s = (round.eventsFrom attempt, s') := by
  induction attempts generalizing attempt s with
  | zero =>
      rw [round.eq_gaveUp] at h ⊢
      cases h
      rfl
  | succ attempts ih =>
      rcases round.eq_reloaded_or_afterFault with ⟨id, rfl⟩ | ⟨fault, rest, rfl⟩
      · rw [answers_reloaded_iff] at h
        rw [attemptFrom, ReloadRound.ruleset, h]
        rfl
      · obtain ⟨s₁, hcall, hrest⟩ := answers_afterFault_iff.mp h
        rw [rest.ruleset_afterFault, rest.eventsFrom_afterFault, attemptFrom, hcall]
        simp only [ih hrest]

/-! ## A round for every ruleset -/

/-- There is a round for each of the rulesets, in order, and the reloader answers to the calls
of all rounds, made one after the other, as the rounds say.  It turns from `s` to `s'`. -/
structure IsRun (reloader : Reloader σ ε) (ids : List String) (s : σ)
    (rounds : List (ReloadRound ε attempts)) (s' : σ) : Prop where
  rulesets : rounds.map ReloadRound.ruleset = ids
  answers : reloader.answers (rounds.flatMap ReloadRound.calls) s =
    (rounds.flatMap ReloadRound.answers, s')

theorem isRun_cons_iff
    {id : String}
    {ids : List String}
    {s s' : σ}
    {round : ReloadRound ε attempts}
    {rounds : List (ReloadRound ε attempts)} :
    reloader.IsRun (id :: ids) s (round :: rounds) s' ↔
      round.ruleset = id ∧ ∃ s₁, reloader.Answers round s s₁ ∧ reloader.IsRun ids s₁ rounds s' := by
  have hlength : round.answers.length = round.calls.length := by
    rw [ReloadRound.calls, List.length_replicate]
  constructor
  · rintro ⟨hids, hanswers⟩
    obtain ⟨hid, hids⟩ := List.cons.inj hids
    obtain ⟨s₁, hround, hrounds⟩ := (answers_append_eq_iff hlength).mp hanswers
    exact ⟨hid, s₁, hround, hids, hrounds⟩
  · rintro ⟨rfl, s₁, hround, rfl, hrounds⟩
    exact ⟨rfl, (answers_append_eq_iff hlength).mpr ⟨s₁, hround, hrounds⟩⟩

theorem exists_isRun
    (reloader : Reloader σ ε)
    (attempts : Nat)
    (ids : List String)
    (s : σ) :
    ∃ (rounds : List (ReloadRound ε attempts)) (s' : σ), reloader.IsRun ids s rounds s' := by
  induction ids generalizing s with
  | nil => exact ⟨[], s, rfl, rfl⟩
  | cons id ids ih =>
      obtain ⟨round, s₁, hid, hround⟩ := reloader.exists_answers id attempts s
      obtain ⟨rounds, s', hrounds⟩ := ih s₁
      exact ⟨round :: rounds, s', isRun_cons_iff.mpr ⟨hid, s₁, hround, hrounds⟩⟩

/-- Reloading makes the rounds that the reloader answers to. -/
theorem IsRun.reloadAll_eq
    {maxAttempts : Nat}
    {ids : List String}
    {s s' : σ}
    {rounds : List (ReloadRound ε (max maxAttempts 1))}
    (h : reloader.IsRun ids s rounds s') :
    reloader.reloadAll maxAttempts ids s = (rounds.flatMap (ReloadRound.eventsFrom 1), s') := by
  induction rounds generalizing ids s with
  | nil =>
      obtain ⟨rfl, hanswers⟩ := h
      cases hanswers
      rfl
  | cons round rounds ih =>
      obtain ⟨id, ids, rfl⟩ : ∃ id ids', ids = id :: ids' := ⟨_, _, h.rulesets.symm⟩
      obtain ⟨rfl, s₁, hround, hrounds⟩ := isRun_cons_iff.mp h
      rw [reloadAll, hround.attemptFrom_eq 1]
      simp only [ih hrounds, List.flatMap_cons]

/-- **Reloading asks for every ruleset in order, each until its first success or until no
attempt is left, and reports those for which every call failed.**  Every reloader has a run
of rounds with the attempts that are granted, but one at least; reloading makes its calls,
leaves the state that it leaves, and gives up the rulesets of its failed rounds. -/
theorem reloadAll_rounds
    (reloader : Reloader σ ε)
    (maxAttempts : Nat)
    (ids : List String)
    (s : σ) :
    (∃ (rounds : List (ReloadRound ε (max maxAttempts 1))) (s' : σ),
      reloader.IsRun ids s rounds s') ∧
    ∀ (rounds : List (ReloadRound ε (max maxAttempts 1))) (s' : σ),
      reloader.IsRun ids s rounds s' →
        (reloader.reloadAll maxAttempts ids s).2 = s' ∧
        reloadCalls (reloader.reloadAll maxAttempts ids s).1 =
          rounds.flatMap ReloadRound.calls ∧
        neverReloaded (reloader.reloadAll maxAttempts ids s).1 =
          (rounds.filter ReloadRound.hasFailed).map ReloadRound.ruleset := by
  refine ⟨reloader.exists_isRun _ ids s, fun rounds s' h => ?_⟩
  rw [h.reloadAll_eq]
  exact ⟨rfl, ReloadRound.reloadCalls_flatMap rounds, ReloadRound.neverReloaded_flatMap rounds⟩

/-- A reloader that fails four times, asked for two rulesets three times at most. -/
example :
    let busy : Reloader Nat Unit := fun _ left =>
      if left = 0 then (.ok (), 0) else (.error (), left - 1)
    reloadCalls (busy.reloadAll 3 ["a", "b"] 4).1 = ["a", "a", "a", "b", "b"] ∧
      neverReloaded (busy.reloadAll 3 ["a", "b"] 4).1 = ["a"] := by
  decide

end Reloader
end FilterCompiler
