import FilterCompiler.Proofs.Store.Session
import FilterCompiler.Store.Rulesets

/-!
# Writing rulesets

A file that has been written is read (`read_writeFile`), and nothing else has been
written.  Two sessions that write the same rulesets without failures read the same under
every identifier afterwards, whatever they read before (`sameFile_writeRulesets`): a
ruleset stays until an identifier that leads to the same place is written, and then it
is replaced in both.
-/

namespace FilterCompiler

/-- The same file is read at a path. -/
def Files.SameFile (files files' : Files) (path : String) : Prop :=
  ∃ content, files.read path = .ok content ∧ files'.read path = .ok content

namespace RulesetStore

variable {written : List String → ByteArray → Prop}

/-! ## Files -/

/-- What comes of writing a file, step by step. -/
theorem writeFile_apply
    (path : String)
    (content : ByteArray)
    (s : Session) :
    writeFile path content s =
      let made := s.files.makeDirectories (Path.parent path)
      match made.1 with
      | .error fault => (.error (.create (Path.parent path) fault), { s with files := made.2 })
      | .ok () =>
          match made.2.write path content with
          | .error fault => (.error (.write path fault), { s with files := made.2 })
          | .ok files => (.ok (), { s with files }) := by
  simp only [writeFile, bind, StateT.bind, Session.getFiles, Session.setFiles]
  rcases s.files.makeDirectories (Path.parent path) with ⟨_ | ⟨⟩, files⟩
  · rfl
  · dsimp only
    cases files.write path content <;> rfl

theorem regular_writeFile
    {path : String}
    {content : ByteArray}
    (hwritten : written (Path.place path) content) :
    Session.Regular written (writeFile path content) where
  quiet s := by
    rw [writeFile_apply]
    dsimp only
    split
    · rfl
    · split <;> rfl
  evolves s := by
    have hmade : Files.Evolves written s.files
        (s.files.makeDirectories (Path.parent path)).2 :=
      Files.evolves_makeDirectories s.files _
    rw [writeFile_apply]
    dsimp only
    split
    · exact hmade
    · split
      · exact hmade
      · next hwrite =>
          obtain ⟨-, hnode, rfl⟩ := (Files.write_eq_ok_iff _ _ _ _).mp hwrite
          exact hmade.trans (Files.evolves_put hnode hwritten)
  respects s s' hagrees := by
    obtain ⟨hvalue, hfiles⟩ := hagrees.makeDirectories (Path.parent path)
    rw [writeFile_apply, writeFile_apply]
    dsimp only
    rw [hvalue]
    split
    · exact ⟨rfl, hfiles⟩
    · have houtcome := hfiles.write path content
      generalize (s.files.makeDirectories (Path.parent path)).2.write path content = outcome,
        (s'.files.makeDirectories (Path.parent path)).2.write path content = outcome'
        at houtcome ⊢
      cases houtcome with
      | fault fault => exact ⟨rfl, hfiles⟩
      | files h => exact ⟨rfl, h⟩

/-- **A file that has been written is read.** -/
theorem read_writeFile
    {path : String}
    {content : ByteArray}
    {s : Session}
    (h : (writeFile path content s).1 = .ok ()) :
    (writeFile path content s).2.files.read path = .ok content := by
  rw [writeFile_apply] at h ⊢
  dsimp only at h ⊢
  split at h
  · cases h
  · split at h
    · cases h
    · next files hwrite =>
        exact Files.read_of_write hwrite

/-- **Writing what is read already changes nothing.** -/
theorem writeFile_of_read
    {path : String}
    {content : ByteArray}
    {s : Session}
    (h : s.files.read path = .ok content) :
    (writeFile path content s).1 = .ok () ∧
      s.files.Agrees (writeFile path content s).2.files := by
  obtain ⟨hleads, hnode⟩ := (Files.read_eq_ok_iff _ _ _).mp h
  have hwrite :
      s.files.write path content = .ok (s.files.put (Path.place path) (.file content)) :=
    (Files.write_eq_ok_iff _ _ _ _).mpr ⟨hleads, by rw [hnode]; simp, rfl⟩
  simp only [writeFile_apply, Files.makeDirectories_parent hleads, hwrite]
  exact ⟨trivial, .put_of_file hnode⟩

/-! ## Paths -/

theorem place_extendedPath
    (store : RulesetStore) :
    Path.place store.extendedPath = Path.place store.directory ++ ["advanced_rules.txt"] :=
  Path.place_join_of_isSimple ⟨by decide, by decide, by decide, by decide⟩ _

/-- The path of a ruleset leads to a name that ends with `.json`, whatever the identifier
is. -/
theorem exists_place_rulesetPath
    (store : RulesetStore)
    (id : String) :
    ∃ above last,
      Path.place (store.rulesetPath id) = above ++ [String.ofList (last ++ ".json".toList)] := by
  obtain ⟨before, hbefore⟩ := Path.exists_toList_join_eq_append store.directory (id ++ ".json")
  have hpath : (store.rulesetPath id).toList = (before ++ id.toList) ++ ".json".toList := by
    rw [rulesetPath, hbefore, String.toList_append, List.append_assoc]
  exact Path.exists_place_append hpath (by decide) (by decide)

/-- **No ruleset is written in the place of the extended rules.** -/
theorem place_rulesetPath_ne
    (store : RulesetStore)
    (id : String) :
    Path.place (store.rulesetPath id) ≠ Path.place store.extendedPath := by
  obtain ⟨above, last, hplace⟩ := store.exists_place_rulesetPath id
  rw [hplace, place_extendedPath]
  intro h
  have hname := (List.append_inj_right' h rfl)
  have hend := congrArg (fun name : String => name.toList.getLast?) (List.cons.inj hname).1
  simp at hend

/-! ## Rulesets -/

theorem read_writeRuleset
    {store : RulesetStore}
    {id json : String}
    {s : Session}
    (h : (store.writeRuleset id json s).1 = .ok ()) :
    (store.writeRuleset id json s).2.files.read (store.rulesetPath id) = .ok json.toUTF8 := by
  unfold writeRuleset at h ⊢
  exact read_writeFile h

theorem regular_writeAgain
    (store : RulesetStore)
    {id json : String}
    (hwritten : written (Path.place (store.rulesetPath id)) json.toUTF8)
    (attempts : Nat) :
    Session.Regular written (store.writeAgain id json attempts) := by
  induction attempts with
  | zero => exact .pure false
  | succ attempts ih =>
      rw [writeAgain]
      refine .bind (regular_writeFile hwritten) fun result => ?_
      cases result with
      | ok => exact .bind (.say _ _) fun _ => .pure true
      | error fault => exact .bind (.say _ _) fun _ => ih

/-- **A ruleset that counts as written is read under its identifier.** -/
theorem read_writeAgain
    {store : RulesetStore}
    {id json : String}
    {attempts : Nat}
    {s : Session}
    (h : (store.writeAgain id json attempts s).1 = true) :
    (store.writeAgain id json attempts s).2.files.read (store.rulesetPath id) =
      .ok json.toUTF8 := by
  induction attempts generalizing s with
  | zero => cases h
  | succ attempts ih =>
      rw [writeAgain, Session.bind_apply] at h ⊢
      cases hresult : (store.writeRuleset id json s).1 with
      | ok =>
          simp only [Session.bind_apply, Session.pure_apply, Session.debug, Session.files_say]
          exact read_writeRuleset hresult
      | error fault =>
          simp only [hresult] at h ⊢
          exact ih h

theorem regular_writeEach
    (store : RulesetStore)
    {ids rulesets : List String}
    (hwritten : ∀ id ∈ ids, ∀ json, json ∈ rulesets ∨ json = neutralRuleset →
      written (Path.place (store.rulesetPath id)) json.toUTF8) :
    Session.Regular written (store.writeEach ids rulesets) := by
  induction ids generalizing rulesets with
  | nil => exact .pure 0
  | cons id ids ih =>
      have hjson : rulesets.headD neutralRuleset ∈ rulesets ∨
          rulesets.headD neutralRuleset = neutralRuleset := by
        cases rulesets with
        | nil => exact .inr rfl
        | cons ruleset rulesets => exact .inl (List.mem_cons_self ..)
      rw [List.forall_mem_cons] at hwritten
      rw [writeEach]
      refine .bind (store.regular_writeAgain (hwritten.1 _ hjson) _) fun isWritten => ?_
      refine .bind (ih fun id hid json hmem => ?_) fun failures => .pure _
      exact hwritten.2 id hid json (hmem.imp_left List.mem_of_mem_tail)

theorem regular_writeRulesets
    (store : RulesetStore)
    {ids rulesets : List String}
    (hwritten : ∀ id ∈ ids, ∀ json, json ∈ rulesets ∨ json = neutralRuleset →
      written (Path.place (store.rulesetPath id)) json.toUTF8) :
    Session.Regular written (store.writeRulesets ids rulesets) := by
  rw [writeRulesets]
  split
  · exact .bind (.say _ _) fun _ => store.regular_writeEach hwritten
  · exact store.regular_writeEach hwritten

/-! ## Two sessions -/

/-- What has been written to a path in both sessions is the same there, and what was the
same elsewhere stays so. -/
theorem sameFile_of_written
    {files files' after after' : Files}
    {path : String}
    {content : ByteArray}
    (hevolves :
      Files.Evolves (fun place c => place = Path.place path ∧ c = content) files after)
    (hevolves' :
      Files.Evolves (fun place c => place = Path.place path ∧ c = content) files' after')
    (hread : after.read path = .ok content)
    (hread' : after'.read path = .ok content)
    {other : String}
    (hsame : files.SameFile files' other) :
    after.SameFile after' other := by
  obtain ⟨old, hold, hold'⟩ := hsame
  by_cases hplace : Path.place other = Path.place path
  · rw [Files.read_eq_ok_iff] at hread hread' hold hold'
    refine ⟨content, ?_, ?_⟩ <;> rw [Files.read_eq_ok_iff, hplace]
    · exact ⟨hevolves.leads hold.1, hread.2⟩
    · exact ⟨hevolves'.leads hold'.1, hread'.2⟩
  · have hspared : ∀ content', ¬ (Path.place other = Path.place path ∧ content' = content) :=
      fun _ h => hplace h.1
    exact ⟨old, hevolves.read hold hspared, hevolves'.read hold' hspared⟩

/-- No failures are counted only if the first ruleset is written and so are all others. -/
theorem eq_zero_of_ite
    {isWritten : Bool}
    {failures : Nat}
    (h : (if isWritten then failures else failures + 1) = 0) :
    isWritten = true ∧ failures = 0 := by
  cases isWritten with
  | false => exact absurd h (Nat.succ_ne_zero _)
  | true => exact ⟨rfl, h⟩

theorem sameFile_writeEach
    {store : RulesetStore}
    {ids rulesets : List String}
    {s s' : Session}
    (h : (store.writeEach ids rulesets s).1 = 0)
    (h' : (store.writeEach ids rulesets s').1 = 0)
    {path : String}
    (hpath : path ∈ ids.map store.rulesetPath ∨ s.files.SameFile s'.files path) :
    (store.writeEach ids rulesets s).2.files.SameFile
      (store.writeEach ids rulesets s').2.files path := by
  induction ids generalizing rulesets s s' with
  | nil => exact hpath.resolve_left (List.not_mem_nil)
  | cons id ids ih =>
      simp only [writeEach, Session.bind_apply, Session.pure_apply] at h h' ⊢
      obtain ⟨hread, hfailures⟩ := eq_zero_of_ite h
      obtain ⟨hread', hfailures'⟩ := eq_zero_of_ite h'
      refine ih hfailures hfailures' ?_
      have hregular : Session.Regular
          (fun place content =>
            place = Path.place (store.rulesetPath id) ∧
              content = (rulesets.headD neutralRuleset).toUTF8)
          (store.writeAgain id (rulesets.headD neutralRuleset) writeAttempts) :=
        store.regular_writeAgain ⟨rfl, rfl⟩ writeAttempts
      rw [List.map_cons, List.mem_cons, or_assoc] at hpath
      rcases hpath with rfl | hpath | hsame
      · exact .inr ⟨_, read_writeAgain hread, read_writeAgain hread'⟩
      · exact .inl hpath
      · exact .inr (sameFile_of_written (hregular.evolves s) (hregular.evolves s')
          (read_writeAgain hread) (read_writeAgain hread') hsame)

/-- **Rulesets written without failures are the same in both sessions.**  So is what was
the same before. -/
theorem sameFile_writeRulesets
    {store : RulesetStore}
    {ids rulesets : List String}
    {s s' : Session}
    (h : (store.writeRulesets ids rulesets s).1 = 0)
    (h' : (store.writeRulesets ids rulesets s').1 = 0)
    {path : String}
    (hpath : path ∈ ids.map store.rulesetPath ∨ s.files.SameFile s'.files path) :
    (store.writeRulesets ids rulesets s).2.files.SameFile
      (store.writeRulesets ids rulesets s').2.files path := by
  unfold writeRulesets at h h' ⊢
  by_cases hdropped : ids.length < rulesets.length
  · simp only [if_pos hdropped, Session.bind_apply] at h h' ⊢
    exact sameFile_writeEach h h' hpath
  · simp only [if_neg hdropped] at h h' ⊢
    exact sameFile_writeEach h h' hpath

end RulesetStore
end FilterCompiler
