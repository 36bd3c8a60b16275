import FilterCompiler.Proofs.Store.Loading

/-!
# What a store keeps

The operations of a store come down to steps that write or remove one file each.  In a
directory that is empty at first, a file holds what the last step that changes it has
written (`Holds`): this is so for one step, and hence for a run.  The file of a ruleset is
changed by the writes under its identifier only, unless that is the name of the cache
(`performAll_keeps`).
-/

namespace FilterCompiler

/-! ## Steps -/

/-- A step of a store writes a file or removes the cache. -/
inductive StoreStep where
  | writeRuleset (id json : String)
  | writeExtended (text : String)
  | saveCache (fingerprint : UInt64) (rules : Conversion.Merged)
  | clearCache
deriving DecidableEq, Repr

namespace StoreStep

/-- Carries out the step and says whether it succeeds. -/
def perform (store : RulesetStore) : StoreStep → SessionM Bool
  | writeRuleset id json => return (← store.writeRuleset id json).isOk
  | writeExtended text => return (← store.writeExtended text).isOk
  | saveCache fingerprint rules => return (← store.saveCache fingerprint rules).isOk
  | clearCache => return (← store.clearCache).isOk

/-- The name of the file that the step changes. -/
def name : StoreStep → String
  | writeRuleset id _ => id ++ ".json"
  | writeExtended _ => "advanced_rules.txt"
  | saveCache _ _ => "cached_rules.json"
  | clearCache => "cached_rules.json"

/-- What the file holds after the step, unless it is removed. -/
def content? : StoreStep → Option ByteArray
  | writeRuleset _ json => some json.toUTF8
  | writeExtended text => some text.toUTF8
  | saveCache fingerprint rules =>
      some (CacheFile.content { fingerprint := Fingerprint.text fingerprint, rules })
  | clearCache => none

/-- The step saves or clears the cache. -/
def isOfCache : StoreStep → Bool
  | saveCache _ _ => true
  | clearCache => true
  | _ => false

/-- The step writes the ruleset with the identifier. -/
def isOfRuleset (id : String) : StoreStep → Bool
  | writeRuleset other _ => other == id
  | _ => false

/-- The step changes the file of the identifier: it writes its ruleset, or changes the cache
and the identifier is the name of the cache. -/
def changes (id : String) (step : StoreStep) : Bool :=
  step.isOfRuleset id || step.isOfCache && id == "cached_rules"

/-- Every other step than clearing the cache writes a file. -/
theorem eq_clearCache_or_content?
    (step : StoreStep) :
    step = .clearCache ∨ ∃ content, step.content? = some content := by
  cases step with
  | clearCache => exact .inl rfl
  | writeRuleset id json => exact .inr ⟨_, rfl⟩
  | writeExtended text => exact .inr ⟨_, rfl⟩
  | saveCache fingerprint rules => exact .inr ⟨_, rfl⟩

theorem perform_of_content?
    {store : RulesetStore}
    {step : StoreStep}
    {content : ByteArray}
    (h : step.content? = some content)
    (s : Session) :
    step.perform store s =
      ((RulesetStore.writeFile (Path.join store.directory step.name) content s).1.isOk,
        (RulesetStore.writeFile (Path.join store.directory step.name) content s).2) := by
  have hwrite : step.perform store =
      (return (← RulesetStore.writeFile (Path.join store.directory step.name) content).isOk) := by
    cases step with
    | clearCache => cases h
    | writeRuleset id json => rw [← Option.some.inj h]; rfl
    | writeExtended text => rw [← Option.some.inj h]; rfl
    | saveCache fingerprint rules => rw [← Option.some.inj h]; rfl
  rw [hwrite, Session.bind_apply, Session.pure_apply]

/-- What the file of a name holds after some steps in a directory that was empty. -/
def lastContent? (name : String) (steps : List StoreStep) : Option ByteArray :=
  (steps.filter (·.name == name)).getLast?.bind content?

theorem lastContent?_concat
    (name : String)
    (steps : List StoreStep)
    (step : StoreStep) :
    lastContent? name (steps ++ [step]) =
      if step.name = name then step.content? else lastContent? name steps := by
  rw [lastContent?, List.filter_append, List.filter_cons, List.filter_nil]
  by_cases h : step.name = name
  · rw [if_pos (beq_iff_eq.mpr h), if_pos h, List.getLast?_concat, Option.bind_some]
  · rw [if_neg (mt beq_iff_eq.mp h), if_neg h, List.append_nil, lastContent?]

/-! ### Whose file a step changes -/

theorem isSimple_append_json
    {id : String}
    (h : '/' ∉ id.toList) :
    Path.IsSimple (id ++ ".json") := by
  have hlong : 5 ≤ (id ++ ".json").toList.length := by simp
  refine ⟨by simpa using h, ?_, ?_, ?_⟩
  all_goals
    intro heq
    rw [heq] at hlong
    exact absurd hlong (by decide)

/-- Every step changes a file in the directory of the store, as long as identifiers have no
slash. -/
theorem isSimple_name
    {step : StoreStep}
    (h : ∀ id json, step = .writeRuleset id json → '/' ∉ id.toList) :
    Path.IsSimple step.name := by
  have hextended : Path.IsSimple "advanced_rules.txt" :=
    ⟨by decide, by decide, by decide, by decide⟩
  have hcached : Path.IsSimple "cached_rules.json" :=
    ⟨by decide, by decide, by decide, by decide⟩
  cases step with
  | writeRuleset id json => exact isSimple_append_json (h id json rfl)
  | writeExtended text => exact hextended
  | saveCache fingerprint rules => exact hcached
  | clearCache => exact hcached

theorem isOfRuleset_iff
    {step : StoreStep}
    {id : String} :
    step.isOfRuleset id = true ↔ ∃ json, step = .writeRuleset id json := by
  cases step <;> simp [isOfRuleset]

/-- **The file of an identifier is changed by the writes of its ruleset**, and by the steps on
the cache if the identifier is its name. -/
theorem name_beq
    (step : StoreStep)
    (id : String) :
    (step.name == id ++ ".json") = step.changes id := by
  have hinj : ∀ other : String, (other ++ ".json" == id ++ ".json") = (other == id) := by
    intro other
    rw [Bool.eq_iff_iff, beq_iff_eq, beq_iff_eq]
    exact String.append_left_inj ".json"
  have hcached : ("cached_rules.json" == id ++ ".json") = (id == "cached_rules") :=
    (hinj "cached_rules").trans BEq.comm
  cases step with
  | writeRuleset other json => exact (hinj other).trans (Bool.or_false _).symm
  | writeExtended text =>
      have hne : "advanced_rules.txt" ≠ id ++ ".json" := by
        intro heq
        have hend := congrArg (·.toList.getLast?) heq
        simp at hend
      exact beq_eq_false_iff_ne.mpr hne
  | saveCache fingerprint rules => exact hcached
  | clearCache => exact hcached

/-- What a step leaves is read as rules in the cache file if it saves them, or writes them in
the shape of a cache file. -/
theorem exists_content?_iff
    {step : StoreStep}
    {fingerprint : UInt64}
    {rules : Conversion.Merged}
    (h : step.changes "cached_rules" = true) :
    (∃ content, step.content? = some content ∧
        CacheFile.ofContent? content =
          some { fingerprint := Fingerprint.text fingerprint, rules }) ↔
      step = .saveCache fingerprint rules ∨
        ∃ json, step = .writeRuleset "cached_rules" json ∧
          CacheFile.ofContent? json.toUTF8 =
            some { fingerprint := Fingerprint.text fingerprint, rules } := by
  cases step with
  | writeRuleset id json =>
      obtain rfl : id = "cached_rules" := by simpa [changes, isOfRuleset, isOfCache] using h
      simp [content?]
  | writeExtended text => cases h
  | saveCache fingerprint' rules' =>
      simp [content?, CacheFile.ofContent?_content, Fingerprint.text_injective.eq_iff]
  | clearCache => simp [content?]

theorem lastContent?_append_json
    (id : String)
    (steps : List StoreStep) :
    lastContent? (id ++ ".json") steps = (steps.filter (·.changes id)).getLast?.bind content? := by
  simp only [lastContent?, name_beq]

end StoreStep

/-! ## What is in the directory -/

/-- There is nothing in the directory at a place. -/
def Files.IsEmptyAt (files : Files) (place : List String) : Prop :=
  ∀ name, Path.IsSimple name → files.node? (place ++ [name]) = none

theorem Files.isEmptyAt_empty
    (place : List String) :
    Files.empty.IsEmptyAt place := by
  intro name hname
  have hanchor : Path.isAnchor (place ++ [name]) = false := by
    rw [Path.isAnchor, Bool.or_eq_false_iff, List.all_append, beq_eq_false_iff_ne]
    constructor
    · simp [hname.ne_dots]
    · intro hroot
      have hlast := congrArg List.getLast? hroot
      rw [List.getLast?_concat] at hlast
      exact hname.ne_empty (Option.some.inj hlast)
  rw [Files.node?_of_not_isAnchor _ hanchor]
  rfl

namespace RulesetStore

/-- The directory of the store holds what some steps have left there: a file has what was
last written to it, and there is no file that was not written or was removed since. -/
structure Holds (store : RulesetStore) (steps : List StoreStep) (files : Files) : Prop where
  read : ∀ name content, Path.IsSimple name → StoreStep.lastContent? name steps = some content →
    files.read (Path.join store.directory name) = .ok content
  absent : ∀ name content, Path.IsSimple name → StoreStep.lastContent? name steps = none →
    files.node? (Path.place store.directory ++ [name]) ≠ some (.file content)

variable {store : RulesetStore} {steps : List StoreStep} {step : StoreStep}
variable {files after : Files} {s : Session}

theorem Holds.nil
    (h : files.IsEmptyAt (Path.place store.directory)) :
    store.Holds [] files where
  read _ _ _ hlast := by cases hlast
  absent name content hname _ := by rw [h name hname]; simp

/-- **A file is read if and only if a step has written it last.** -/
theorem Holds.read_eq_ok_iff
    (h : store.Holds steps files)
    {name : String}
    (hname : Path.IsSimple name)
    (content : ByteArray) :
    files.read (Path.join store.directory name) = .ok content ↔
      StoreStep.lastContent? name steps = some content := by
  refine ⟨fun hread => ?_, h.read name content hname⟩
  cases hlast : StoreStep.lastContent? name steps with
  | none =>
      rw [Files.read_eq_ok_iff, Path.place_join_of_isSimple hname] at hread
      exact absurd hread.2 (h.absent name content hname hlast)
  | some other =>
      rw [h.read name other hname hlast] at hread
      cases hread
      rfl

/-- **A step that changes its own file only** takes the directory from what the steps before
have left to what it leaves. -/
theorem Holds.concat
    (h : store.Holds steps files)
    (hdirectories : ∀ place, files.node? place = some .directory →
      after.node? place = some .directory)
    (hothers : ∀ name content, name ≠ step.name →
      (after.node? (Path.place store.directory ++ [name]) = some (.file content) ↔
        files.node? (Path.place store.directory ++ [name]) = some (.file content)))
    (hread : ∀ content, step.content? = some content →
      after.read (Path.join store.directory step.name) = .ok content)
    (habsent : step.content? = none → ∀ content,
      after.node? (Path.place store.directory ++ [step.name]) ≠ some (.file content)) :
    store.Holds (steps ++ [step]) after where
  read name content hname hlast := by
    rw [StoreStep.lastContent?_concat] at hlast
    split at hlast
    · next heq => exact heq ▸ hread content hlast
    · next hne =>
        have hbefore := h.read name content hname hlast
        rw [Files.read_eq_ok_iff, Path.place_join_of_isSimple hname] at hbefore ⊢
        exact ⟨hbefore.1.mono hdirectories,
          (hothers name content (Ne.symm hne)).mpr hbefore.2⟩
  absent name content hname hlast := by
    rw [StoreStep.lastContent?_concat] at hlast
    split at hlast
    · next heq => exact heq ▸ habsent hlast content
    · next hne =>
        exact mt (hothers name content (Ne.symm hne)).mp (h.absent name content hname hlast)

theorem Holds.write
    (h : store.Holds steps files)
    {content : ByteArray}
    (hcontent : step.content? = some content)
    (hevolves : Files.Evolves
      (fun place c => place = Path.place store.directory ++ [step.name] ∧ c = content)
      files after)
    (hread : after.read (Path.join store.directory step.name) = .ok content) :
    store.Holds (steps ++ [step]) after := by
  refine h.concat (fun _ => hevolves.directory) (fun name c hne => ?_) ?_ ?_
  · have hspared : ∀ c', ¬ (Path.place store.directory ++ [name] =
        Path.place store.directory ++ [step.name] ∧ c' = content) :=
      fun _ hplace => hne (List.cons.inj (List.append_cancel_left hplace.1)).1
    constructor
    · intro hafter
      exact (hevolves.file_or_new hafter).resolve_right (hspared c)
    · exact fun hbefore => hevolves.file hbefore hspared
  · intro c hc
    rw [hcontent, Option.some_inj] at hc
    rw [← hc]
    exact hread
  · intro hnone
    rw [hcontent] at hnone
    cases hnone

theorem Holds.remove
    (h : store.Holds steps files)
    (hname : Path.IsSimple step.name)
    (hcontent : step.content? = none)
    (hremove : files.remove (Path.join store.directory step.name) = .ok after) :
    store.Holds (steps ++ [step]) after := by
  obtain ⟨-, ⟨old, hold⟩, -⟩ := (files.remove_eq_ok_iff _ _).mp hremove
  have hafter := Files.node?_of_remove hremove
  rw [Path.place_join_of_isSimple hname] at hold hafter
  refine h.concat (fun place hdirectory => ?_) (fun name c hne => ?_) ?_ (fun _ c => ?_)
  · -- what is removed is no directory
    have hplace : place ≠ Path.place store.directory ++ [step.name] := by
      rintro rfl
      rw [hold] at hdirectory
      cases hdirectory
    rw [hafter, if_neg hplace, hdirectory]
  · have hplace : Path.place store.directory ++ [name] ≠
        Path.place store.directory ++ [step.name] :=
      fun heq => hne (List.cons.inj (List.append_cancel_left heq)).1
    rw [hafter, if_neg hplace]
  · intro c hc
    rw [hcontent] at hc
    cases hc
  · rw [hafter, if_pos rfl]
    exact nofun

/-- The removal of a file that is not there changes nothing. -/
theorem Holds.keep
    (h : store.Holds steps files)
    (hname : Path.IsSimple step.name)
    (hcontent : step.content? = none)
    (hnone : StoreStep.lastContent? step.name steps = none) :
    store.Holds (steps ++ [step]) files := by
  refine h.concat (fun _ => id) (fun _ _ _ => Iff.rfl) ?_ fun _ c => h.absent _ c hname hnone
  intro c hc
  rw [hcontent] at hc
  cases hc

theorem eq_ok_of_isOk
    {ε : Type}
    {result : Except ε Unit}
    (h : result.isOk = true) :
    result = .ok () := by
  cases result with
  | ok => rfl
  | error => cases h

/-- What clearing the cache does to the directory. -/
theorem Holds.clearCache
    (h : store.Holds steps s.files)
    (hcleared : (store.clearCache s).1 = .ok ()) :
    store.Holds (steps ++ [.clearCache]) (store.clearCache s).2.files := by
  have hname : Path.IsSimple StoreStep.clearCache.name :=
    StoreStep.isSimple_name fun _ _ => nofun
  rcases clearCache_cases hcleared with hremove | ⟨hremove, hfiles⟩
  · exact h.remove hname rfl hremove
  · rw [hfiles]
    refine h.keep hname rfl ?_
    rw [Option.eq_none_iff_forall_ne_some]
    intro content hlast
    have hread : s.files.read store.cachePath = .ok content := h.read _ content hname hlast
    rw [Files.remove_of_read hread] at hremove
    cases hremove

/-- **What one step does to the directory.** -/
theorem Holds.perform
    (h : store.Holds steps s.files)
    (hname : Path.IsSimple step.name)
    (hstep : (step.perform store s).1 = true) :
    store.Holds (steps ++ [step]) (step.perform store s).2.files := by
  rcases step.eq_clearCache_or_content? with rfl | ⟨content, hcontent⟩
  · rw [StoreStep.perform, Session.bind_apply, Session.pure_apply] at hstep ⊢
    exact h.clearCache (eq_ok_of_isOk hstep)
  · rw [StoreStep.perform_of_content? hcontent] at hstep ⊢
    dsimp only at hstep ⊢
    have hregular : Session.Regular
        (fun place c => place = Path.place store.directory ++ [step.name] ∧ c = content)
        (writeFile (Path.join store.directory step.name) content) :=
      regular_writeFile ⟨Path.place_join_of_isSimple hname _, rfl⟩
    exact h.write hcontent (hregular.evolves s) (read_writeFile (eq_ok_of_isOk hstep))

end RulesetStore

/-! ## Runs -/

/-- A call of a store. -/
inductive StoreCall where
  | step (step : StoreStep)
  | writeRulesets (ids rulesets : List String)
deriving DecidableEq, Repr

namespace StoreCall

/-- The steps of a call.  Rulesets are written one after the other, the neutral one under
identifiers for which there are no more. -/
def steps : StoreCall → List StoreStep
  | step s => [s]
  | writeRulesets ids rulesets =>
      ids.mapIdx fun index id => .writeRuleset id (rulesets.getD index neutralRuleset)

/-- Makes the call and says whether it succeeds. -/
def perform (store : RulesetStore) : StoreCall → SessionM Bool
  | step s => s.perform store
  | writeRulesets ids rulesets => return (← store.writeRulesets ids rulesets) == 0

/-- Makes calls one after the other and says whether all succeed. -/
def performAll (store : RulesetStore) : List StoreCall → SessionM Bool
  | [] => return true
  | call :: calls => do
      let succeeded ← call.perform store
      let others ← performAll store calls
      return succeeded && others

theorem steps_writeRulesets_cons
    (id : String)
    (ids rulesets : List String) :
    (writeRulesets (id :: ids) rulesets).steps =
      .writeRuleset id (rulesets.headD neutralRuleset) ::
        (writeRulesets ids rulesets.tail).steps := by
  cases rulesets <;> simp [steps, List.mapIdx_cons]

end StoreCall

namespace RulesetStore

variable {store : RulesetStore} {steps : List StoreStep} {s : Session}

theorem Holds.writeEach
    {ids rulesets : List String}
    (h : store.Holds steps s.files)
    (hids : ∀ step ∈ (StoreCall.writeRulesets ids rulesets).steps, Path.IsSimple step.name)
    (hnone : (store.writeEach ids rulesets s).1 = 0) :
    store.Holds (steps ++ (StoreCall.writeRulesets ids rulesets).steps)
      (store.writeEach ids rulesets s).2.files := by
  induction ids generalizing steps rulesets s with
  | nil =>
      rw [StoreCall.steps, List.mapIdx_nil, List.append_nil]
      exact h
  | cons id ids ih =>
      rw [StoreCall.steps_writeRulesets_cons] at hids ⊢
      rw [List.forall_mem_cons] at hids
      simp only [RulesetStore.writeEach, Session.bind_apply, Session.pure_apply] at hnone ⊢
      obtain ⟨hwritten, hfailures⟩ := eq_zero_of_ite hnone
      have hregular : Session.Regular
          (fun place c => place = Path.place store.directory ++ [id ++ ".json"] ∧
            c = (rulesets.headD neutralRuleset).toUTF8)
          (store.writeAgain id (rulesets.headD neutralRuleset) writeAttempts) :=
        store.regular_writeAgain ⟨Path.place_join_of_isSimple hids.1 _, rfl⟩ writeAttempts
      have hcontent : (StoreStep.writeRuleset id (rulesets.headD neutralRuleset)).content? =
          some (rulesets.headD neutralRuleset).toUTF8 := rfl
      have hfirst := h.write hcontent (hregular.evolves s) (read_writeAgain hwritten)
      have hrest := ih hfirst hids.2 hfailures
      rwa [List.append_assoc, List.singleton_append] at hrest

/-- **What one call does to the directory.** -/
theorem Holds.call
    {call : StoreCall}
    (h : store.Holds steps s.files)
    (hids : ∀ step ∈ call.steps, Path.IsSimple step.name)
    (hcall : (call.perform store s).1 = true) :
    store.Holds (steps ++ call.steps) (call.perform store s).2.files := by
  cases call with
  | step step => exact h.perform (hids step (List.mem_singleton_self step)) hcall
  | writeRulesets ids rulesets =>
      rw [StoreCall.perform, Session.bind_apply, Session.pure_apply] at hcall ⊢
      have hnone : (store.writeRulesets ids rulesets s).1 = 0 := beq_iff_eq.mp hcall
      unfold RulesetStore.writeRulesets at hnone ⊢
      by_cases hdropped : ids.length < rulesets.length
      · simp only [if_pos hdropped, Session.bind_apply] at hnone ⊢
        exact Holds.writeEach (s := (Session.warn _ s).2) h hids hnone
      · simp only [if_neg hdropped] at hnone ⊢
        exact h.writeEach hids hnone

/-- **What a run of calls does to the directory.** -/
theorem Holds.performAll
    {calls : List StoreCall}
    (h : store.Holds steps s.files)
    (hids : ∀ step ∈ calls.flatMap StoreCall.steps, Path.IsSimple step.name)
    (hrun : (StoreCall.performAll store calls s).1 = true) :
    store.Holds (steps ++ calls.flatMap StoreCall.steps)
      (StoreCall.performAll store calls s).2.files := by
  induction calls generalizing steps s with
  | nil =>
      rw [List.flatMap_nil, List.append_nil]
      exact h
  | cons call calls ih =>
      rw [List.flatMap_cons, List.forall_mem_append] at hids
      rw [StoreCall.performAll, Session.bind_apply, Session.bind_apply, Session.pure_apply]
        at hrun ⊢
      obtain ⟨hcall, hrest⟩ := Bool.and_eq_true_iff.mp hrun
      rw [List.flatMap_cons, ← List.append_assoc]
      exact ih (h.call hids.1 hcall) hids.2 hrest

/-! ## The cache and the rulesets -/

/-- Rules are loaded if the last step on the cache file has left them there. -/
theorem Holds.loadCache_eq_some_iff
    {fingerprint : UInt64}
    {rules : Conversion.Merged}
    (h : store.Holds steps s.files) :
    (store.loadCache fingerprint s).1 = some rules ↔
      ∃ step, (steps.filter (·.changes "cached_rules")).getLast? = some step ∧
        (step = .saveCache fingerprint rules ∨
          ∃ json, step = .writeRuleset "cached_rules" json ∧
            CacheFile.ofContent? json.toUTF8 =
              some { fingerprint := Fingerprint.text fingerprint, rules }) := by
  have hsimple : Path.IsSimple ("cached_rules" ++ ".json") :=
    StoreStep.isSimple_append_json (by decide)
  have hread : ∀ content, s.files.read store.cachePath = .ok content ↔
      StoreStep.lastContent? ("cached_rules" ++ ".json") steps = some content :=
    h.read_eq_ok_iff hsimple
  simp only [RulesetStore.loadCache_eq_some_iff, hread, StoreStep.lastContent?_append_json,
    Option.bind_eq_some_iff]
  constructor
  · rintro ⟨content, ⟨step, hlast, hcontent⟩, hcache⟩
    have hof := List.of_mem_filter (List.mem_of_getLast? hlast)
    exact ⟨step, hlast, (StoreStep.exists_content?_iff hof).mp ⟨content, hcontent, hcache⟩⟩
  · rintro ⟨step, hlast, hleft⟩
    have hof := List.of_mem_filter (List.mem_of_getLast? hlast)
    obtain ⟨content, hcontent, hcache⟩ := (StoreStep.exists_content?_iff hof).mpr hleft
    exact ⟨content, ⟨step, hlast, hcontent⟩, hcache⟩

/-- The file of an identifier has what was last written under it. -/
theorem Holds.read_rulesetPath_eq_ok_iff
    {id : String}
    {content : ByteArray}
    (h : store.Holds steps s.files)
    (hslash : '/' ∉ id.toList)
    (hid : id ≠ "cached_rules") :
    s.files.read (store.rulesetPath id) = .ok content ↔
      ∃ json, (steps.filter (·.isOfRuleset id)).getLast? = some (.writeRuleset id json) ∧
        content = json.toUTF8 := by
  have hread : s.files.read (store.rulesetPath id) = .ok content ↔
      StoreStep.lastContent? (id ++ ".json") steps = some content :=
    h.read_eq_ok_iff (StoreStep.isSimple_append_json hslash) content
  have hchanges : StoreStep.changes id = StoreStep.isOfRuleset id := by
    funext step
    rw [StoreStep.changes, beq_false_of_ne hid, Bool.and_false, Bool.or_false]
  rw [hread, StoreStep.lastContent?_append_json, hchanges, Option.bind_eq_some_iff]
  constructor
  · rintro ⟨step, hlast, hcontent⟩
    obtain ⟨json, rfl⟩ :=
      StoreStep.isOfRuleset_iff.mp (List.of_mem_filter (List.mem_of_getLast? hlast))
    exact ⟨json, hlast, (Option.some.inj hcontent).symm⟩
  · rintro ⟨json, hlast, rfl⟩
    exact ⟨_, hlast, rfl⟩

/-- **Operations do not disturb one another.**  After a run of calls that succeed in a
directory that was empty, rules are loaded under a fingerprint if and only if the last step
on the cache has saved them under it.  A ruleset that is written under `cached_rules` counts
as a step on the cache, for its file is that of the cache: it leaves what is read from it as
a cache file.  Without one, saving and clearing the cache alone decide.  Every other ruleset
is read as last written under its identifier. -/
theorem performAll_keeps
    (store : RulesetStore)
    (calls : List StoreCall)
    (s : Session)
    (hempty : s.files.IsEmptyAt (Path.place store.directory))
    (hids : ∀ id json, .writeRuleset id json ∈ calls.flatMap StoreCall.steps → '/' ∉ id.toList)
    (hrun : (StoreCall.performAll store calls s).1 = true) :
    let steps := calls.flatMap StoreCall.steps
    let after := (StoreCall.performAll store calls s).2
    (∀ fingerprint rules, (store.loadCache fingerprint after).1 = some rules ↔
        ∃ step, (steps.filter (·.changes "cached_rules")).getLast? = some step ∧
          (step = .saveCache fingerprint rules ∨
            ∃ json, step = .writeRuleset "cached_rules" json ∧
              CacheFile.ofContent? json.toUTF8 =
                some { fingerprint := Fingerprint.text fingerprint, rules })) ∧
      ((∀ json, .writeRuleset "cached_rules" json ∉ steps) →
        ∀ fingerprint rules, (store.loadCache fingerprint after).1 = some rules ↔
          (steps.filter (·.isOfCache)).getLast? = some (.saveCache fingerprint rules)) ∧
      ∀ id, '/' ∉ id.toList → id ≠ "cached_rules" →
        ∀ content, after.files.read (store.rulesetPath id) = .ok content ↔
          ∃ json, (steps.filter (·.isOfRuleset id)).getLast? = some (.writeRuleset id json) ∧
            content = json.toUTF8 := by
  intro steps after
  have hnames : ∀ step ∈ steps, Path.IsSimple step.name := by
    intro step hstep
    refine StoreStep.isSimple_name fun id json heq => hids id json ?_
    rwa [heq] at hstep
  have hafter : store.Holds steps after.files :=
    (Holds.nil hempty).performAll hnames hrun
  refine ⟨fun fingerprint rules => hafter.loadCache_eq_some_iff, ?_,
    fun id hslash hid content => hafter.read_rulesetPath_eq_ok_iff hslash hid⟩
  intro hnone fingerprint rules
  have hfilter : steps.filter (·.changes "cached_rules") = steps.filter (·.isOfCache) := by
    refine List.filter_congr fun step hstep => ?_
    have hother : step.isOfRuleset "cached_rules" = false := by
      rw [Bool.eq_false_iff]
      intro hof
      obtain ⟨json, rfl⟩ := StoreStep.isOfRuleset_iff.mp hof
      exact hnone json hstep
    rw [StoreStep.changes, hother, beq_self_eq_true, Bool.and_true, Bool.false_or]
  rw [hafter.loadCache_eq_some_iff, hfilter]
  constructor
  · rintro ⟨step, hlast, rfl | ⟨json, rfl, -⟩⟩
    · exact hlast
    · exact absurd (List.of_mem_filter (List.mem_of_getLast? hlast)) Bool.false_ne_true
  · intro hlast
    exact ⟨_, hlast, .inl rfl⟩

/-- Rules saved and cleared, rulesets written one by one and together, and rules saved again. -/
theorem performAll_keeps_rewritten :
    let store : RulesetStore := { directory := "out/rules" }
    let s : Session := .start .empty
    let rules : Conversion.Merged := { chunks := ["[]", ""], extended := some "a\n" }
    let calls : List StoreCall :=
      [.step (.saveCache 7 rules), .writeRulesets ["a", "b", "a"] ["[1]"], .step .clearCache,
        .step (.writeExtended "x"), .step (.saveCache 8 rules), .step (.writeRuleset "b" "[2]")]
    let after := (StoreCall.performAll store calls s).2
    (store.loadCache 8 after).1 = some rules ∧ (store.loadCache 7 after).1 = none ∧
      after.files.read (store.rulesetPath "a") = .ok neutralRuleset.toUTF8 ∧
      after.files.read (store.rulesetPath "b") = .ok "[2]".toUTF8 := by
  intro store s rules calls after
  have hids : ∀ id json, .writeRuleset id json ∈ calls.flatMap StoreCall.steps →
      '/' ∉ id.toList := by
    intro id json hmem
    have hid : id = "a" ∧ json = "[1]" ∨ id = "b" ∧ json = neutralRuleset ∨
        id = "a" ∧ json = neutralRuleset ∨ id = "b" ∧ json = "[2]" := by
      simpa [calls, StoreCall.steps, List.mapIdx_cons] using hmem
    rcases hid with ⟨rfl, -⟩ | ⟨rfl, -⟩ | ⟨rfl, -⟩ | ⟨rfl, -⟩ <;> decide
  have hrun : (StoreCall.performAll store calls s).1 = true := by decide +kernel
  obtain ⟨-, hcache, hruleset⟩ :=
    performAll_keeps store calls s (Files.isEmptyAt_empty _) hids hrun
  have hnone : ∀ json, .writeRuleset "cached_rules" json ∉ calls.flatMap StoreCall.steps := by
    simp [calls, StoreCall.steps, List.mapIdx_cons]
  refine ⟨(hcache hnone 8 rules).mpr (by decide +kernel), ?_, ?_, ?_⟩
  · rw [Option.eq_none_iff_forall_ne_some]
    intro rules' hloaded
    have hlast : some (StoreStep.saveCache 8 rules) = some (.saveCache 7 rules') :=
      (hcache hnone 7 rules').mp hloaded
    rw [Option.some_inj, StoreStep.saveCache.injEq] at hlast
    exact absurd hlast.1 (by decide)
  · exact (hruleset "a" (by decide) (by decide) _).mpr ⟨neutralRuleset, by decide +kernel, rfl⟩
  · exact (hruleset "b" (by decide) (by decide) _).mpr ⟨"[2]", by decide +kernel, rfl⟩

/-- **The rulesets of a store are not apart from its cache.**  A ruleset that is written under
`cached_rules` takes the place of the rules that were saved before, and is lost to those that
are saved after it. -/
theorem performAll_cachedRules :
    let store : RulesetStore := { directory := "out" }
    let s : Session := .start .empty
    let save : StoreStep := .saveCache 7 { chunks := ["[1]"], extended := none }
    let write : StoreStep := .writeRuleset "cached_rules" "[]"
    let written := StoreCall.performAll store [.step save, .step write] s
    let saved := StoreCall.performAll store [.step write, .step save] s
    s.files.IsEmptyAt (Path.place store.directory) ∧
      (written.1 = true ∧ ([save, write].filter (·.isOfCache)).getLast? = some save ∧
        (store.loadCache 7 written.2).1 = none) ∧
      (saved.1 = true ∧
        ([write, save].filter (·.isOfRuleset "cached_rules")).getLast? = some write ∧
        saved.2.files.read (store.rulesetPath "cached_rules") ≠ .ok "[]".toUTF8) := by
  intro store s save write written saved
  refine ⟨Files.isEmptyAt_empty _, ⟨?_, ?_, ?_⟩, ?_, ?_, ?_⟩
  all_goals decide +kernel

end RulesetStore
end FilterCompiler
