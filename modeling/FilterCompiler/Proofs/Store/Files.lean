import FilterCompiler.Proofs.Store.Path
import FilterCompiler.Store.Files
import Mathlib.Tactic.ByContra

/-!
# What operations do to files

Files are looked at place by place.  Two values that have the same node at every
place agree, and every operation comes to the same on both.  Making directories and
writing leave directories as they are and files too, unless they are written; hence
what is read at a path stays until its place is written (`Evolves.read`).
-/

namespace FilterCompiler
namespace Files

/-! ## Nodes -/

theorem lookup_filter_ne
    {α β : Type}
    [BEq α]
    [LawfulBEq α]
    [DecidableEq α]
    (nodes : List (α × β))
    (erased place : α) :
    (nodes.filter (·.1 != erased)).lookup place =
      if place = erased then none else nodes.lookup place := by
  induction nodes with
  | nil => simp
  | cons p nodes ih =>
      rw [List.filter_cons]
      by_cases hp : p.1 = erased
      · rw [if_neg (by simp [hp]), ih]
        by_cases hplace : place = erased
        · rw [if_pos hplace, if_pos hplace]
        · have hbeq : (place == p.1) = false := beq_false_of_ne fun h => hplace (h.trans hp)
          rw [if_neg hplace, if_neg hplace, List.lookup_cons, hbeq]
      · rw [if_pos (by simpa using hp), List.lookup_cons, List.lookup_cons, ih]
        by_cases hplace : place = p.1
        · subst hplace
          simp [hp]
        · have hbeq : (place == p.1) = false := beq_false_of_ne hplace
          rw [hbeq]

theorem node?_of_isAnchor
    (files : Files)
    {place : List String}
    (h : Path.isAnchor place = true) :
    files.node? place = some .directory := by
  rw [node?, if_pos h]

theorem node?_of_not_isAnchor
    (files : Files)
    {place : List String}
    (h : Path.isAnchor place = false) :
    files.node? place = files.nodes.lookup place := by
  rw [node?, if_neg (by simp [h])]

theorem isAnchor_eq_false
    {files : Files}
    {place : List String}
    (h : files.node? place ≠ some .directory) :
    Path.isAnchor place = false := by
  by_contra hanchor
  rw [Bool.not_eq_false] at hanchor
  exact h (files.node?_of_isAnchor hanchor)

theorem node?_erase
    (files : Files)
    {erased : List String}
    (h : Path.isAnchor erased = false)
    (place : List String) :
    (files.erase erased).node? place = if place = erased then none else files.node? place := by
  cases hanchor : Path.isAnchor place with
  | true =>
      have hne : place ≠ erased := by
        rintro rfl
        rw [h] at hanchor
        cases hanchor
      rw [node?_of_isAnchor _ hanchor, node?_of_isAnchor _ hanchor, if_neg hne]
  | false =>
      rw [node?_of_not_isAnchor _ hanchor, node?_of_not_isAnchor _ hanchor]
      exact lookup_filter_ne files.nodes erased place

theorem node?_put
    (files : Files)
    {target : List String}
    (h : Path.isAnchor target = false)
    (node : Node)
    (place : List String) :
    (files.put target node).node? place =
      if place = target then some node else files.node? place := by
  by_cases hplace : place = target
  · subst hplace
    rw [node?_of_not_isAnchor _ h, put, List.lookup_cons, if_pos rfl]
    simp
  · have herase := files.node?_erase h place
    cases hanchor : Path.isAnchor place with
    | true => rw [node?_of_isAnchor _ hanchor, node?_of_isAnchor _ hanchor, if_neg hplace]
    | false =>
        rw [node?_of_not_isAnchor _ hanchor] at herase
        rw [node?_of_not_isAnchor _ hanchor, put, List.lookup_cons, beq_false_of_ne hplace,
          if_neg hplace]
        exact herase.trans (if_neg hplace)

/-! ## Following paths -/

/-- The names lead on from a place: all but the last lead to directories, and none
is too long. -/
def Passes (files : Files) (place : List String) : List String → Prop
  | [] => True
  | name :: names =>
      files.node? place = some .directory ∧ name.utf8ByteSize ≤ Path.nameLimit ∧
        files.Passes (Path.enter place name) names

/-- **Following names leads where entering them leads**, if they lead on. -/
theorem follow_eq_ok_iff
    (files : Files)
    (place : List String)
    (names : List String)
    (target : List String) :
    files.follow place names = .ok target ↔
      files.Passes place names ∧ target = names.foldl Path.enter place := by
  induction names generalizing place with
  | nil => simp [follow, Passes, eq_comm]
  | cons name names ih =>
      rw [follow, Passes, List.foldl_cons]
      cases hnode : files.node? place with
      | none => simp
      | some node =>
          cases node with
          | file content => simp
          | directory =>
              by_cases hlong : Path.nameLimit < name.utf8ByteSize
              · simp [hlong, Nat.not_le.mpr hlong]
              · simp [hlong, Nat.not_lt.mp hlong, ih]

/-- The path leads somewhere, whether there is something or not. -/
def Leads (files : Files) (path : String) : Prop :=
  '\x00' ∉ path.toList ∧ path ≠ "" ∧ files.Passes (Path.start path) (Path.names path)

theorem Passes.mono
    {files after : Files}
    {place names : List String}
    (h : files.Passes place names)
    (hstays : ∀ place, files.node? place = some .directory → after.node? place = some .directory) :
    after.Passes place names := by
  induction names generalizing place with
  | nil => trivial
  | cons name names ih => exact ⟨hstays _ h.1, h.2.1, ih h.2.2⟩

/-- A path leads somewhere as long as directories stay. -/
theorem Leads.mono
    {files after : Files}
    {path : String}
    (h : files.Leads path)
    (hstays : ∀ place, files.node? place = some .directory → after.node? place = some .directory) :
    after.Leads path :=
  ⟨h.1, h.2.1, h.2.2.mono hstays⟩

theorem locate_eq_ok_iff
    (files : Files)
    (path : String)
    (target : List String) :
    files.locate path = .ok target ↔ files.Leads path ∧ target = Path.place path := by
  unfold locate Leads
  split
  · next hzero =>
      rw [List.contains_iff_mem] at hzero
      simp [hzero]
  · next hzero =>
      rw [List.contains_iff_mem] at hzero
      split
      · next hempty => simp [hempty]
      · next hempty => simp [hzero, hempty, follow_eq_ok_iff, Path.place]

theorem locate_of_leads
    {files : Files}
    {path : String}
    (h : files.Leads path) :
    files.locate path = .ok (Path.place path) :=
  (files.locate_eq_ok_iff path _).mpr ⟨h, rfl⟩

theorem exists_locate_eq_error
    {files : Files}
    {path : String}
    (h : ¬ files.Leads path) :
    ∃ fault, files.locate path = .error fault := by
  cases hlocate : files.locate path with
  | error fault => exact ⟨fault, rfl⟩
  | ok target => exact absurd ((files.locate_eq_ok_iff path target).mp hlocate).1 h

/-- **What is read at a path is the file at its place**, if the path leads there. -/
theorem read_eq_ok_iff
    (files : Files)
    (path : String)
    (content : ByteArray) :
    files.read path = .ok content ↔
      files.Leads path ∧ files.node? (Path.place path) = some (.file content) := by
  by_cases hleads : files.Leads path
  · simp only [read, find, locate_of_leads hleads, hleads, true_and]
    rcases files.node? (Path.place path) with _ | _ | content' <;> simp
  · obtain ⟨fault, hlocate⟩ := exists_locate_eq_error hleads
    simp [read, find, hlocate, hleads]

/-- **Writing puts the content at the place of the path**, if the path leads there and
no directory is there. -/
theorem write_eq_ok_iff
    (files : Files)
    (path : String)
    (content : ByteArray)
    (after : Files) :
    files.write path content = .ok after ↔
      files.Leads path ∧ files.node? (Path.place path) ≠ some .directory ∧
        after = files.put (Path.place path) (.file content) := by
  by_cases hleads : files.Leads path
  · simp only [write, locate_of_leads hleads, hleads, true_and]
    rcases files.node? (Path.place path) with _ | _ | content' <;> simp [eq_comm]
  · obtain ⟨fault, hlocate⟩ := exists_locate_eq_error hleads
    simp [write, hlocate, hleads]

/-- **Removing takes away the file at the place of the path.** -/
theorem remove_eq_ok_iff
    (files : Files)
    (path : String)
    (after : Files) :
    files.remove path = .ok after ↔
      files.Leads path ∧ (∃ content, files.node? (Path.place path) = some (.file content)) ∧
        after = files.erase (Path.place path) := by
  by_cases hleads : files.Leads path
  · simp only [remove, locate_of_leads hleads, hleads, true_and]
    rcases files.node? (Path.place path) with _ | _ | content' <;> simp [eq_comm]
  · obtain ⟨fault, hlocate⟩ := exists_locate_eq_error hleads
    simp [remove, hlocate, hleads]

/-! ## How files evolve -/

/-- What may become of the node at a place when directories are made and files are
written. -/
inductive Change (written : List String → ByteArray → Prop) (place : List String) :
    Option Node → Option Node → Prop
  | same (node : Option Node) : Change written place node node
  | made : Change written place none (some .directory)
  | wrote {before : Option Node} {content : ByteArray} (hbefore : before ≠ some .directory)
      (hwritten : written place content) :
      Change written place before (some (.file content))

namespace Change

variable {written written' : List String → ByteArray → Prop}
variable {place : List String} {before middle node : Option Node} {content : ByteArray}

theorem trans
    (h : Change written place before middle)
    (h' : Change written place middle node) :
    Change written place before node := by
  cases h' with
  | same => exact h
  | made => cases h with | same => exact .made
  | wrote hbefore hwritten =>
      refine .wrote ?_ hwritten
      rintro rfl
      cases h with
      | same => exact hbefore rfl
      | wrote hdirectory => exact hdirectory rfl

theorem mono
    (h : Change written place before node)
    (hwritten : ∀ place content, written place content → written' place content) :
    Change written' place before node := by
  cases h with
  | same => exact .same _
  | made => exact .made
  | wrote hbefore hwrote => exact .wrote hbefore (hwritten _ _ hwrote)

theorem eq_directory
    (h : Change written place (some .directory) node) :
    node = some .directory := by
  cases h with
  | same => rfl
  | wrote hbefore => exact absurd rfl hbefore

theorem eq_file
    (h : Change written place (some (.file content)) node)
    (hspared : ∀ content', ¬ written place content') :
    node = some (.file content) := by
  cases h with
  | same => rfl
  | wrote _ hwritten => exact absurd hwritten (hspared _)

theorem file_or_new
    (h : Change written place before (some (.file content))) :
    before = some (.file content) ∨ written place content := by
  cases h with
  | same => exact .inl rfl
  | wrote _ hwritten => exact .inr hwritten

end Change

/-- Directories have been made, and files have been written. -/
def Evolves (written : List String → ByteArray → Prop) (files after : Files) : Prop :=
  ∀ place, Change written place (files.node? place) (after.node? place)

namespace Evolves

variable {written written' : List String → ByteArray → Prop}
variable {files after last : Files}

theorem refl : Evolves written files files := fun _ => .same _

theorem trans
    (h : Evolves written files after)
    (h' : Evolves written after last) :
    Evolves written files last :=
  fun place => (h place).trans (h' place)

theorem mono
    (h : Evolves written files after)
    (hwritten : ∀ place content, written place content → written' place content) :
    Evolves written' files after :=
  fun place => (h place).mono hwritten

/-- **Directories stay.** -/
theorem directory
    (h : Evolves written files after)
    {place : List String}
    (hnode : files.node? place = some .directory) :
    after.node? place = some .directory :=
  (hnode ▸ h place).eq_directory

/-- **A file stays until it is written.** -/
theorem file
    (h : Evolves written files after)
    {place : List String}
    {content : ByteArray}
    (hnode : files.node? place = some (.file content))
    (hspared : ∀ content', ¬ written place content') :
    after.node? place = some (.file content) :=
  (hnode ▸ h place).eq_file hspared

/-- **A file was there, or it has been written.** -/
theorem file_or_new
    (h : Evolves written files after)
    {place : List String}
    {content : ByteArray}
    (hnode : after.node? place = some (.file content)) :
    files.node? place = some (.file content) ∨ written place content :=
  (hnode ▸ h place).file_or_new

theorem leads
    (h : Evolves written files after)
    {path : String}
    (hleads : files.Leads path) :
    after.Leads path :=
  hleads.mono fun _ => h.directory

/-- **What is read at a path stays until its place is written.** -/
theorem read
    (h : Evolves written files after)
    {path : String}
    {content : ByteArray}
    (hread : files.read path = .ok content)
    (hspared : ∀ content', ¬ written (Path.place path) content') :
    after.read path = .ok content := by
  rw [read_eq_ok_iff] at hread ⊢
  exact ⟨h.leads hread.1, h.file hread.2 hspared⟩

end Evolves

theorem evolves_makeAlong
    {written : List String → ByteArray → Prop}
    (files : Files)
    (place names : List String) :
    Evolves written files (files.makeAlong place names).2 := by
  induction names generalizing files place with
  | nil => exact .refl
  | cons name names ih =>
      rw [makeAlong]
      split
      · exact .refl
      · dsimp only
        cases hnode : files.node? (Path.enter place name) with
        | none =>
            refine Evolves.trans ?_ (ih _ _)
            intro other
            rw [node?_put files (isAnchor_eq_false (by rw [hnode]; simp))]
            split
            · next heq =>
                rw [heq, hnode]
                exact .made
            · exact .same _
        | some node =>
            cases node with
            | directory => exact ih files _
            | file content => exact .refl

theorem evolves_makeDirectories
    {written : List String → ByteArray → Prop}
    (files : Files)
    (path : String) :
    Evolves written files (files.makeDirectories path).2 := by
  unfold makeDirectories
  split
  · exact .refl
  · exact evolves_makeAlong files _ _

theorem evolves_put
    {written : List String → ByteArray → Prop}
    {files : Files}
    {place : List String}
    {content : ByteArray}
    (hnode : files.node? place ≠ some .directory)
    (hwritten : written place content) :
    Evolves written files (files.put place (.file content)) := by
  intro other
  rw [node?_put files (isAnchor_eq_false hnode)]
  split
  · next heq =>
      subst heq
      exact .wrote hnode hwritten
  · exact .same _

/-- **What has been written is read.** -/
theorem read_of_write
    {files after : Files}
    {path : String}
    {content : ByteArray}
    (h : files.write path content = .ok after) :
    after.read path = .ok content := by
  obtain ⟨hleads, hnode, rfl⟩ := (files.write_eq_ok_iff path content after).mp h
  have hevolves :
      Evolves (fun _ _ => True) files
        (files.put (Path.place path) (.file content)) :=
    evolves_put hnode trivial
  rw [read_eq_ok_iff, node?_put files (isAnchor_eq_false hnode), if_pos rfl]
  exact ⟨hevolves.leads hleads, rfl⟩

/-- **Removing a file leaves every other node.** -/
theorem node?_of_remove
    {files after : Files}
    {path : String}
    (h : files.remove path = .ok after)
    (place : List String) :
    after.node? place = if place = Path.place path then none else files.node? place := by
  obtain ⟨-, ⟨old, hold⟩, rfl⟩ := (files.remove_eq_ok_iff path after).mp h
  exact files.node?_erase (isAnchor_eq_false (by rw [hold]; simp)) place

/-- **The directory of a path that leads somewhere is there.** -/
theorem makeAlong_of_passes
    {files : Files}
    {place names more : List String}
    (hmore : more ≠ [])
    (h : files.Passes place (names ++ more)) :
    files.makeAlong place names = (.ok (), files) := by
  induction names generalizing place with
  | nil => rfl
  | cons name names ih =>
      have hlimit : name.utf8ByteSize ≤ Path.nameLimit := h.2.1
      have hpasses : files.Passes (Path.enter place name) (names ++ more) := h.2.2
      have hnext : files.node? (Path.enter place name) = some .directory := by
        have hne : names ++ more ≠ [] := List.append_ne_nil_of_right_ne_nil _ hmore
        generalize names ++ more = rest at hpasses hne
        cases rest with
        | nil => exact absurd rfl hne
        | cons => exact hpasses.1
      rw [makeAlong, if_neg (Nat.not_lt.mpr hlimit)]
      simp only [hnext]
      exact ih hpasses

theorem makeDirectories_parent
    {files : Files}
    {path : String}
    (h : files.Leads path) :
    files.makeDirectories (Path.parent path) = (.ok (), files) := by
  obtain ⟨hzero, -, hpasses⟩ := h
  rcases Path.parent_cases path with hparent | hparent | ⟨hinitial, hstart, more, hmore, hnames⟩
  · rw [hparent]
    rfl
  · rw [hparent]
    rfl
  · have hzero' : '\x00' ∉ (Path.parent path).toList := fun hmem => hzero (hinitial.subset hmem)
    rw [hnames, ← hstart] at hpasses
    rw [makeDirectories, if_neg (by simpa using hzero'), makeAlong_of_passes hmore hpasses]

/-! ## Files that agree -/

/-- The same is at every place. -/
def Agrees (files files' : Files) : Prop := ∀ place, files.node? place = files'.node? place

/-- The same fault, or files that agree. -/
inductive SameOutcome : Except FileFault Files → Except FileFault Files → Prop
  | fault (fault : FileFault) : SameOutcome (.error fault) (.error fault)
  | files {files files' : Files} (h : files.Agrees files') : SameOutcome (.ok files) (.ok files')

namespace Agrees

variable {files files' : Files}

theorem refl : files.Agrees files := fun _ => rfl

theorem follow_eq
    (h : files.Agrees files')
    (place names : List String) :
    files.follow place names = files'.follow place names := by
  induction names generalizing place with
  | nil => rfl
  | cons name names ih =>
      rw [follow, follow, h place]
      rcases files'.node? place with _ | _ | content
      · rfl
      · simp only [ih]
      · rfl

theorem locate_eq
    (h : files.Agrees files')
    (path : String) :
    files.locate path = files'.locate path := by
  simp only [locate, h.follow_eq]

theorem find_eq
    (h : files.Agrees files')
    (path : String) :
    files.find path = files'.find path := by
  rw [find, find, h.locate_eq]
  cases files'.locate path with
  | error fault => rfl
  | ok place => simp only [h place]

theorem read_eq
    (h : files.Agrees files')
    (path : String) :
    files.read path = files'.read path := by
  simp only [read, h.find_eq]

theorem put
    (h : files.Agrees files')
    {place : List String}
    (hanchor : Path.isAnchor place = false)
    (node : Node) :
    (files.put place node).Agrees (files'.put place node) := by
  intro other
  rw [node?_put files hanchor, node?_put files' hanchor, h other]

/-- Writing what is there changes nothing. -/
theorem put_of_file
    {place : List String}
    {content : ByteArray}
    (hnode : files.node? place = some (.file content)) :
    files.Agrees (files.put place (.file content)) := by
  intro other
  rw [node?_put files (isAnchor_eq_false (by rw [hnode]; simp))]
  split
  · next heq => rw [heq, hnode]
  · rfl

theorem write
    (h : files.Agrees files')
    (path : String)
    (content : ByteArray) :
    SameOutcome (files.write path content) (files'.write path content) := by
  unfold Files.write
  rw [h.locate_eq]
  cases files'.locate path with
  | error fault => exact .fault fault
  | ok place =>
      have hnode := h place
      dsimp only
      rw [hnode]
      cases hplace : files'.node? place with
      | none =>
          exact .files (h.put (isAnchor_eq_false (by rw [hplace]; simp)) _)
      | some node =>
          cases node with
          | directory => exact .fault _
          | file => exact .files (h.put (isAnchor_eq_false (by rw [hplace]; simp)) _)

theorem makeAlong
    (h : files.Agrees files')
    (place names : List String) :
    (files.makeAlong place names).1 = (files'.makeAlong place names).1 ∧
      (files.makeAlong place names).2.Agrees (files'.makeAlong place names).2 := by
  induction names generalizing files files' place with
  | nil => exact ⟨rfl, h⟩
  | cons name names ih =>
      rw [Files.makeAlong, Files.makeAlong]
      split
      · exact ⟨rfl, h⟩
      · dsimp only
        rw [h (Path.enter place name)]
        cases hplace : files'.node? (Path.enter place name) with
        | none => exact ih (h.put (isAnchor_eq_false (by rw [hplace]; simp)) _) _
        | some node =>
            cases node with
            | directory => exact ih h _
            | file => exact ⟨rfl, h⟩

theorem makeDirectories
    (h : files.Agrees files')
    (path : String) :
    (files.makeDirectories path).1 = (files'.makeDirectories path).1 ∧
      (files.makeDirectories path).2.Agrees (files'.makeDirectories path).2 := by
  unfold Files.makeDirectories
  split
  · exact ⟨rfl, h⟩
  · exact h.makeAlong _ _

end Agrees

end Files
end FilterCompiler
