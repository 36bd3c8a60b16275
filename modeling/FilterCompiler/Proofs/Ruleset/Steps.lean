import FilterCompiler.Ruleset.Resolve

/-!
# Narrowing step by step

Domains are cut out of a scope one after another, and so is what exceptions cover, until
nothing is left.  Both are folds of their step.  What each step keeps holds of what is left
in the end (`of_foldlM_eq_some`), and a map that commutes with each step commutes with all
of them (`foldlM_map_eq`).
-/

namespace FilterCompiler

section Steps

variable {α β : Type} {step : β → α → Option β} {P : β → Prop}

/-- **What each step keeps, all steps keep.** -/
theorem of_foldlM_eq_some
    {items : List α}
    {first last : β}
    (h : items.foldlM step first = some last)
    (hstep : ∀ item ∈ items, ∀ b b', P b → step b item = some b' → P b')
    (hfirst : P first) :
    P last := by
  induction items generalizing first with
  | nil =>
      cases h
      exact hfirst
  | cons item items ih =>
      rw [List.forall_mem_cons] at hstep
      rw [List.foldlM_cons] at h
      obtain ⟨next, hnext, hrest⟩ := Option.bind_eq_some_iff.mp h
      exact ih hrest hstep.2 (hstep.1 first next hfirst hnext)

/-- **A map that commutes with each step commutes with all of them**, if the steps keep
what it takes. -/
theorem foldlM_map_eq
    {f : β → β}
    {g : α → α}
    {items : List α}
    {first : β}
    (hcomm : ∀ item ∈ items, ∀ b, P b → step (f b) (g item) = (step b item).map f)
    (hstep : ∀ item ∈ items, ∀ b b', P b → step b item = some b' → P b')
    (hfirst : P first) :
    (items.map g).foldlM step (f first) = (items.foldlM step first).map f := by
  induction items generalizing first with
  | nil => rfl
  | cons item items ih =>
      rw [List.forall_mem_cons] at hcomm hstep
      rw [List.map_cons, List.foldlM_cons, List.foldlM_cons, hcomm.1 first hfirst]
      cases hnext : step first item with
      | none => rfl
      | some next => exact ih hcomm.2 hstep.2 (hstep.1 first next hfirst hnext)

end Steps

namespace DomainScope

theorem excludeAll_eq_foldlM
    (version : HostVersion)
    (scope : DomainScope)
    (domains : List String) :
    scope.excludeAll version domains = domains.foldlM (exclude version) scope := by
  induction domains generalizing scope with
  | nil => rfl
  | cons domain domains ih =>
      rw [excludeAll, List.foldlM_cons]
      cases scope.exclude version domain with
      | none => rfl
      | some left => exact ih left

theorem exceptAll_eq_foldlM
    (version : HostVersion)
    (scope : DomainScope)
    (exceptions : List DomainScope) :
    scope.exceptAll version exceptions = exceptions.foldlM (except version) scope := by
  induction exceptions generalizing scope with
  | nil => rfl
  | cons exception exceptions ih =>
      rw [exceptAll, List.foldlM_cons]
      cases scope.except version exception with
      | none => rfl
      | some left => exact ih left

/-- An exception that leaves something has domains, which are cut out. -/
theorem except_eq_some_iff
    {version : HostVersion}
    {scope exception left : DomainScope} :
    scope.except version exception = some left ↔
      exception.permitted ≠ [] ∧ scope.excludeAll version exception.permitted = some left := by
  rw [except, Option.ite_none_left_eq_some, List.isEmpty_iff]

end DomainScope
end FilterCompiler
