import FilterCompiler.Proofs.Store.Files
import FilterCompiler.Store.Session

/-!
# What actions do to files

An action is regular if it puts nothing on the output, lets files evolve, and comes to
the same on files that agree, whatever has been said before.  What is put together from
regular actions is regular (`pure`, `bind`, `reading`).
-/

namespace FilterCompiler
namespace Session

/-- An action, and then what comes next with its value. -/
theorem bind_apply
    {α β : Type}
    (action : SessionM α)
    (next : α → SessionM β)
    (s : Session) :
    (action >>= next) s = next (action s).1 (action s).2 := rfl

@[simp] theorem pure_apply
    {α : Type}
    (a : α)
    (s : Session) :
    (pure a : SessionM α) s = (a, s) := rfl

@[simp] theorem files_start
    (files : Files) :
    (start files).files = files := rfl

@[simp] theorem files_say
    (level : LogLevel)
    (message : String)
    (s : Session) :
    (say level message s).2.files = s.files := rfl

/-- The action says nothing on the output, writes files as the predicate says, and does not
tell files that agree from each other. -/
structure Regular
    (written : List String → ByteArray → Prop)
    {α : Type}
    (action : SessionM α) : Prop where
  quiet : ∀ s : Session, (action s).2.output = s.output
  evolves : ∀ s : Session, Files.Evolves written s.files (action s).2.files
  respects : ∀ s s' : Session, s.files.Agrees s'.files →
    (action s).1 = (action s').1 ∧ (action s).2.files.Agrees (action s').2.files

namespace Regular

variable {written : List String → ByteArray → Prop}
variable {α β : Type}

theorem pure
    (a : α) :
    Regular written (Pure.pure a : SessionM α) where
  quiet _ := rfl
  evolves _ := .refl
  respects _ _ h := ⟨rfl, h⟩

/-- What comes next has to be regular for the values that the action gives only. -/
theorem bind_value
    {action : SessionM α}
    {next : α → SessionM β}
    (h : Regular written action)
    (hnext : ∀ s, Regular written (next (action s).1)) :
    Regular written (action >>= next) where
  quiet s := ((hnext s).quiet _).trans (h.quiet s)
  evolves s := (h.evolves s).trans ((hnext s).evolves _)
  respects s s' hagrees := by
    obtain ⟨hvalue, hfiles⟩ := h.respects s s' hagrees
    rw [bind_apply, bind_apply, hvalue]
    exact (hnext s').respects _ _ hfiles

theorem bind
    {action : SessionM α}
    {next : α → SessionM β}
    (h : Regular written action)
    (hnext : ∀ a, Regular written (next a)) :
    Regular written (action >>= next) :=
  h.bind_value fun _ => hnext _

/-- Looking at files is regular if what comes next is the same for files that agree. -/
theorem reading
    {next : Files → SessionM α}
    (hsame : ∀ files files', files.Agrees files' → next files = next files')
    (hnext : ∀ files, Regular written (next files)) :
    Regular written (getFiles >>= next) where
  quiet s := (hnext s.files).quiet s
  evolves s := (hnext s.files).evolves s
  respects s s' hagrees := by
    have happly : ∀ s, (getFiles >>= next) s = next s.files s := fun _ => rfl
    rw [happly, happly, hsame _ _ hagrees]
    exact (hnext _).respects _ _ hagrees

theorem say
    (level : LogLevel)
    (message : String) :
    Regular written (Session.say level message) where
  quiet _ := rfl
  evolves _ := .refl
  respects _ _ h := ⟨rfl, h⟩

end Regular

end Session
end FilterCompiler
