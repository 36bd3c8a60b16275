import FilterCompiler.Rule.Cosmetic
import FilterCompiler.Rule.Network
import Mathlib.Data.List.Forall2

/-!
# Lists that are read item by item

Domains, the options of a rule and the conditions in brackets are read one by one up to the
first fault, so each of the three readers of lists is the `mapM` of its reader of items.
What a list comes to follows from what its items come to (`mapM_eq_ok_iff`).
-/

namespace FilterCompiler

section Items

variable {α β ε : Type} {read : α → Except ε β} {items : List α} {results : List β}

/-- **A list is read if every item is**, and it is read as the results in order. -/
theorem mapM_eq_ok_iff :
    items.mapM read = .ok results ↔
      List.Forall₂ (fun item result => read item = .ok result) items results := by
  induction items generalizing results with
  | nil =>
      rw [List.mapM_nil, List.forall₂_nil_left_iff]
      exact Except.ok.injEq [] results ▸ eq_comm
  | cons item items ih =>
      rw [List.mapM_cons, List.forall₂_cons_left_iff]
      simp only [← ih]
      cases read item with
      | error fault => simp [bind, Except.bind]
      | ok first =>
          cases items.mapM read with
          | error fault => simp [bind, Except.bind]
          | ok rest => simp [bind, Except.bind, pure, Except.pure, @eq_comm _ results]

theorem exists_mapM_eq_ok_iff :
    (∃ results, items.mapM read = .ok results) ↔
      ∀ item ∈ items, ∃ result, read item = .ok result := by
  simp only [mapM_eq_ok_iff]
  induction items with
  | nil => simp
  | cons item items ih =>
      rw [List.forall_mem_cons, ← ih]
      simp [List.forall₂_cons_left_iff]

/-- What holds of whatever is read holds of all results. -/
theorem forall_mem_of_mapM
    {P : β → Prop}
    (hread : ∀ item result, read item = .ok result → P result)
    (h : items.mapM read = .ok results) :
    ∀ result ∈ results, P result := by
  rw [mapM_eq_ok_iff] at h
  induction h with
  | nil => exact List.forall_mem_nil P
  | cons hitem hitems ih => exact List.forall_mem_cons.mpr ⟨hread _ _ hitem, ih⟩

end Items

/-! ## The readers -/

theorem DomainItem.readAll_eq_mapM
    [DomainEncoder]
    (items : List (List Char)) :
    readAll items = items.mapM read := by
  induction items with
  | nil => rfl
  | cons item items ih =>
      rw [readAll, List.mapM_cons, ih]
      cases read item with
      | error fault => rfl
      | ok first => cases items.mapM read <;> rfl

theorem Modifier.parseAll_eq_mapM
    [DomainEncoder]
    (version : HostVersion)
    (options : List (List Char)) :
    parseAll version options = options.mapM (parse version) := by
  induction options with
  | nil => rfl
  | cons option options ih =>
      rw [parseAll, List.mapM_cons, ih]
      cases parse version option with
      | error e => rfl
      | ok m => cases options.mapM (parse version) <;> rfl

theorem PageCondition.parseAll_eq_mapM
    [DomainEncoder]
    (options : List (List Char)) :
    parseAll options = options.mapM parse := by
  induction options with
  | nil => rfl
  | cons option options ih =>
      rw [parseAll, List.mapM_cons, ih]
      cases parse option with
      | error e => rfl
      | ok condition => cases options.mapM parse <;> rfl

end FilterCompiler
