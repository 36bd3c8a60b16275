import FilterCompiler.Proofs.Store.Session
import FilterCompiler.Store.Machine
import Mathlib.Logic.Relation

/-!
# What reload commands do to files

Nothing is known of the programs of a machine.  Reloading does to files what some runs of
the command's program do, one after another, and takes nothing from the output
(`Session.Follows`, `ReloadCommand.follows_reloadOn`).  So whatever the runs leave stays,
however often reloading is tried.
-/

namespace FilterCompiler

variable {step : Files → Files → Prop}

namespace Session

/-- The action does to files what some steps do, one after another, and takes nothing from
the output. -/
structure Follows
    (step : Files → Files → Prop)
    {α : Type}
    (action : SessionM α) : Prop where
  files : ∀ s : Session, Relation.ReflTransGen step s.files (action s).2.files
  output : ∀ s : Session, s.output <+: (action s).2.output

namespace Follows

variable {α β : Type}

theorem pure
    (a : α) :
    Follows step (Pure.pure a : SessionM α) where
  files _ := .refl
  output s := List.prefix_refl s.output

theorem bind
    {action : SessionM α}
    {next : α → SessionM β}
    (h : Follows step action)
    (hnext : ∀ a, Follows step (next a)) :
    Follows step (action >>= next) where
  files s := (h.files s).trans ((hnext _).files _)
  output s := (h.output s).trans ((hnext _).output _)

theorem logging
    (a : α)
    (records : List LogRecord) :
    Follows step (fun s => (a, { s with log := s.log ++ records }) : SessionM α) where
  files _ := .refl
  output s := List.prefix_refl s.output

theorem mono
    {step' : Files → Files → Prop}
    {action : SessionM α}
    (h : Follows step action)
    (hstep : ∀ files after, step files after → step' files after) :
    Follows step' action where
  files s := Relation.ReflTransGen.mono hstep _ _ (h.files s)
  output := h.output

end Follows

end Session

/-! ## Trying again -/

namespace Reloader

variable {ε : Type}

theorem attemptFrom_succ
    (reloader : Reloader Session ε)
    (id : String)
    (attempt attempts : Nat) :
    reloader.attemptFrom id attempt (attempts + 1) =
      (do
        match ← (reloader id : SessionM (Except ε Unit)) with
        | .ok () => return [.reloaded id attempt]
        | .error fault =>
            let events ← reloader.attemptFrom id (attempt + 1) attempts
            return .failed id attempt fault :: events : SessionM (List (ReloadEvent ε))) := by
  funext s
  rw [attemptFrom, Session.bind_apply]
  rcases reloader id s with ⟨_ | ⟨⟩, s'⟩ <;> rfl

theorem reloadAll_cons
    (reloader : Reloader Session ε)
    (maxAttempts : Nat)
    (id : String)
    (ids : List String) :
    reloader.reloadAll maxAttempts (id :: ids) =
      (do
        let first ← reloader.attemptFrom id 1 (max maxAttempts 1)
        let rest ← reloader.reloadAll maxAttempts ids
        return first ++ rest : SessionM (List (ReloadEvent ε))) := rfl

variable {reloader : Reloader Session ε}

theorem follows_attemptFrom
    {id : String}
    (h : Session.Follows step (reloader id))
    (attempt attempts : Nat) :
    Session.Follows step (reloader.attemptFrom id attempt attempts) := by
  induction attempts generalizing attempt with
  | zero => exact .pure _
  | succ attempts ih =>
      rw [attemptFrom_succ]
      refine .bind h fun result => ?_
      rcases result with fault | ⟨⟩
      · exact .bind (ih _) fun _ => .pure _
      · exact .pure _

/-- **Reloading rulesets takes the steps that reloading one of them takes.** -/
theorem follows_reloadAll
    {ids : List String}
    (h : ∀ id ∈ ids, Session.Follows step (reloader id))
    (maxAttempts : Nat) :
    Session.Follows step (reloader.reloadAll maxAttempts ids) := by
  induction ids with
  | nil => exact .pure _
  | cons id ids ih =>
      rw [List.forall_mem_cons] at h
      rw [reloadAll_cons]
      exact .bind (follows_attemptFrom h.1 1 _) fun _ => .bind (ih h.2) fun _ => .pure _

end Reloader

/-! ## Programs -/

namespace ReloadCommand

/-- The machine runs the command's program for one of the rulesets, whatever it has run
before. -/
def Runs (machine : Machine) (command : ReloadCommand) (ids : List String)
    (files after : Files) : Prop :=
  ∃ runs, ∃ id ∈ ids, after = (machine runs command.program (command.args ++ [id]) files).files

theorem follows_reloadOn
    (machine : Machine)
    (command : ReloadCommand)
    {ids : List String}
    {id : String}
    (hid : id ∈ ids) :
    Session.Follows (command.Runs machine ids) (command.reloadOn machine id) := by
  have hrun : Session.Follows (command.Runs machine ids)
      (Session.runProgram machine command.program (command.args ++ [id])) :=
    { files := fun s => .single ⟨s.runs, id, hid, rfl⟩
      output := fun s => List.prefix_append s.output _ }
  unfold reloadOn
  refine .bind hrun fun ending => ?_
  rcases ending with reason | status
  · exact .pure _
  · dsimp only
    split
    · exact .pure _
    · exact .pure _

end ReloadCommand

/-! ## What reloading leaves -/

/-- The machine runs the reload command, if one is given, for one of the rulesets. -/
def ReloadRuns (machine : Machine) (command : Option String) (ids : List String)
    (files after : Files) : Prop :=
  ∃ text ∈ command, ∃ parsed ∈ ReloadCommand.parse? text, parsed.Runs machine ids files after

/-- No run of the reload command changes what is at the place. -/
def ReloadLeaves (machine : Machine) (command : Option String) (ids : List String)
    (place : List String) : Prop :=
  ∀ files after, ReloadRuns machine command ids files after →
    after.node? place = files.node? place

/-- No run of the reload command changes what is at the path, or blocks the way to it. -/
structure ReloadSpares (machine : Machine) (command : Option String) (ids : List String)
    (path : String) : Prop where
  leaves : ReloadLeaves machine command ids (Path.place path)
  leads : ∀ files after, ReloadRuns machine command ids files after →
    files.Leads path → after.Leads path

variable {machine : Machine} {command : Option String} {ids : List String} {files after : Files}

theorem ReloadLeaves.node?_eq
    {place : List String}
    (h : ReloadLeaves machine command ids place)
    (hruns : Relation.ReflTransGen (ReloadRuns machine command ids) files after) :
    after.node? place = files.node? place := by
  induction hruns with
  | refl => rfl
  | tail _ hrun ih => exact (h _ _ hrun).trans ih

/-- **What has been read at a path is read after reloading.** -/
theorem ReloadSpares.read
    {path : String}
    {content : ByteArray}
    (h : ReloadSpares machine command ids path)
    (hruns : Relation.ReflTransGen (ReloadRuns machine command ids) files after)
    (hread : files.read path = .ok content) :
    after.read path = .ok content := by
  rw [Files.read_eq_ok_iff] at hread ⊢
  refine ⟨?_, (h.leaves.node?_eq hruns).trans hread.2⟩
  induction hruns with
  | refl => exact hread.1
  | tail _ hrun ih => exact h.leads _ _ hrun ih

/-! ## Making files -/

namespace Machine

/-- Making a file if it is missing leaves all other places, and directories. -/
theorem node?_touchFile
    {path : String}
    (h : touchFile files path = .ok after)
    (place : List String)
    (hplace : place ≠ Path.place path ∨ files.node? place = some .directory) :
    after.node? place = files.node? place := by
  unfold touchFile at h
  split at h
  · cases h
    rfl
  · obtain ⟨-, hnode, rfl⟩ := (Files.write_eq_ok_iff _ _ _ _).mp h
    rw [Files.node?_put _ (Files.isAnchor_eq_false hnode), if_neg]
    rintro rfl
    exact hplace.elim (fun hne => hne rfl) hnode
  · cases h

/-- **Making files that are missing leaves all other places, and directories.** -/
theorem node?_touch
    {place : List String}
    (paths : List String)
    (hplace : (∀ path ∈ paths, place ≠ Path.place path) ∨ files.node? place = some .directory) :
    (touch files paths).1.node? place = files.node? place := by
  induction paths generalizing files with
  | nil => rfl
  | cons path paths ih =>
      rw [List.forall_mem_cons] at hplace
      rw [touch]
      cases hfile : touchFile files path with
      | error fault => exact ih (hplace.imp_left And.right)
      | ok made =>
          have hmade := node?_touchFile hfile place (hplace.imp_left And.left)
          exact (ih (hplace.imp And.right hmade.trans)).trans hmade

variable {text path : String} {args : List String}

theorem exists_touch
    (hparse : ReloadCommand.parse? text = some { program := "touch", args })
    (h : ReloadRuns .small (some text) ids files after) :
    ∃ id ∈ ids, after = (touch files (args ++ [id])).1 := by
  obtain ⟨_, htext, parsed, hparsed, runs, id, hid, hafter⟩ := h
  cases htext
  rw [hparse] at hparsed
  cases hparsed
  exact ⟨id, hid, hafter⟩

/-- **`touch` leaves all places but those of its paths.** -/
theorem reloadLeaves_touch
    {place : List String}
    (hparse : ReloadCommand.parse? text = some { program := "touch", args })
    (hplace : ∀ id ∈ ids, ∀ path ∈ args ++ [id], place ≠ Path.place path) :
    ReloadLeaves .small (some text) ids place := by
  intro files after hruns
  obtain ⟨id, hid, rfl⟩ := exists_touch hparse hruns
  exact node?_touch _ (.inl (hplace id hid))

theorem reloadSpares_touch
    (hparse : ReloadCommand.parse? text = some { program := "touch", args })
    (hplace : ∀ id ∈ ids, ∀ other ∈ args ++ [id], Path.place path ≠ Path.place other) :
    ReloadSpares .small (some text) ids path where
  leaves := reloadLeaves_touch hparse hplace
  leads files after hruns hleads := by
    obtain ⟨id, -, rfl⟩ := exists_touch hparse hruns
    exact hleads.mono fun place hnode => (node?_touch _ (.inr hnode)).trans hnode

end Machine
end FilterCompiler
