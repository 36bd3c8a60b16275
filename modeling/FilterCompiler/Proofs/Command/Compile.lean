import FilterCompiler.Command.Disable
import FilterCompiler.Proofs.Store.Cache
import FilterCompiler.Proofs.Store.Programs

/-!
# What commands do to files

A job reads its inputs and makes a request of them; whether it converts the request or
takes it from the cache, it then writes rules.  Each of these steps is regular, and
reading inputs changes no file at all (`readInputs_apply`).  A job without cache writes
the rules of its request (`rules_apply`).  Last it reloads what it has written, which does
to files what runs of the reload command do (`follows_reloadIfAsked`).
-/

namespace FilterCompiler

variable {written : List String → ByteArray → Prop} {machine : Machine}

/-! ## Reloading -/

theorem follows_reloadEach
    (machine : Machine)
    (command : ReloadCommand)
    (ids : List String) :
    Session.Follows (command.Runs machine ids) (reloadEach machine command ids) := by
  have hall : Session.Follows (command.Runs machine ids)
      ((command.reloader machine).reloadAll reloadAttempts ids) :=
    Reloader.follows_reloadAll (fun _ hid => command.follows_reloadOn machine hid) reloadAttempts
  exact .bind hall fun events => .logging (neverReloaded events) (events.map reloadRecord)

/-- **Reloading runs the reload command for the rulesets, if one is given.** -/
theorem follows_reloadIfAsked
    (machine : Machine)
    (command : Option String)
    (ids : List String) :
    Session.Follows (ReloadRuns machine command ids) (reloadIfAsked machine command ids) := by
  cases command with
  | none => exact .pure ()
  | some text =>
      rw [reloadIfAsked, reloadRulesets]
      split
      · exact .logging () _
      · next parsed hparsed =>
          have heach : Session.Follows (ReloadRuns machine (some text) ids)
              (reloadEach machine parsed ids) :=
            (follows_reloadEach machine parsed ids).mono
              fun _ _ hrun => ⟨text, rfl, parsed, hparsed, hrun⟩
          refine .bind heach fun failed => ?_
          split
          · exact .logging () _
          · exact .logging () _

namespace CompileJob

/-! ## Inputs -/

/-- The lines of some files, in order. -/
def inputLines (files : Files) : List String → Except CommandFault (List String)
  | [] => .ok []
  | path :: paths =>
      match files.readText path with
      | .error fault => .error (.unreadable path fault)
      | .ok text =>
          match inputLines files paths with
          | .error fault => .error fault
          | .ok rest => .ok (fileLines text ++ rest)

theorem inputLines_congr
    {files files' : Files}
    {paths : List String}
    (h : ∀ path ∈ paths, files.read path = files'.read path) :
    inputLines files paths = inputLines files' paths := by
  induction paths with
  | nil => rfl
  | cons path paths ih =>
      rw [List.forall_mem_cons] at h
      rw [inputLines, inputLines, Files.readText, Files.readText, h.1, ih h.2]

/-- **Reading the inputs gives their lines** and changes no file. -/
theorem readInputs_apply
    (paths : List String)
    (s : Session) :
    (readInputs paths s).1 = inputLines s.files paths ∧
      (readInputs paths s).2.files = s.files ∧ (readInputs paths s).2.output = s.output := by
  induction paths generalizing s with
  | nil => exact ⟨rfl, rfl, rfl⟩
  | cons path paths ih =>
      rw [readInputs, inputLines, Session.bind_apply]
      dsimp only [Session.getFiles]
      cases s.files.readText path with
      | error fault => exact ⟨rfl, rfl, rfl⟩
      | ok text =>
          let said := (Session.info s!"Read {(fileLines text).length} lines from '{path}'" s).2
          obtain ⟨hvalue, hfiles, houtput⟩ := ih said
          have hsaid : said.files = s.files := rfl
          rw [hsaid] at hvalue hfiles
          simp only [Session.bind_apply]
          rw [← hvalue]
          cases hrest : (readInputs paths said).1 with
          | error fault => exact ⟨rfl, hfiles, houtput⟩
          | ok rest => exact ⟨rfl, hfiles, houtput⟩

/-! ## Rules -/

/-- The request that the job makes of some lines. -/
def requestOf (job : CompileJob) (lines : List String) : Request :=
  { options := job.options, chunkSize := job.lanes.chunkSize, lines }

theorem regular_reportChunks
    (number : Nat)
    (conversions : List Conversion) :
    Session.Regular written (reportChunks number conversions) := by
  induction conversions generalizing number with
  | nil => exact .pure ()
  | cons conversion conversions ih => exact .bind (.say _ _) fun _ => ih (number + 1)

/-- Converting lines reports on the conversions of their request, and gives its rules. -/
theorem convert_eq
    (job : CompileJob)
    (lines : List String) :
    ∃ counted : Nat, job.convert lines = do
      reportChunks 0 (job.requestOf lines).conversions
      Session.info s!"Total conversion errors: {counted}"
      return .ok (job.requestOf lines).rules := by
  have hconversions := (job.requestOf lines).conversions_convert job.lanes.lanes
  refine ⟨(Lanes.convert job.options job.lanes false lines).counted, ?_⟩
  unfold convert
  dsimp only [requestOf] at hconversions ⊢
  rw [hconversions]
  rfl

theorem regular_convert
    (job : CompileJob)
    (lines : List String) :
    Session.Regular written (job.convert lines) := by
  obtain ⟨counted, hconvert⟩ := job.convert_eq lines
  rw [hconvert]
  exact .bind (regular_reportChunks 0 _) fun _ => .bind (.say _ _) fun _ => .pure _

theorem convert_apply
    (job : CompileJob)
    (lines : List String)
    (s : Session) :
    (job.convert lines s).1 = .ok (job.requestOf lines).rules := by
  obtain ⟨counted, hconvert⟩ := job.convert_eq lines
  rw [hconvert]
  rfl

theorem files_reportChunks
    (number : Nat)
    (conversions : List Conversion)
    (s : Session) :
    (reportChunks number conversions s).2.files = s.files := by
  induction conversions generalizing number s with
  | nil => rfl
  | cons conversion conversions ih =>
      rw [reportChunks, Session.bind_apply, ih]
      rfl

theorem files_convert
    (job : CompileJob)
    (lines : List String)
    (s : Session) :
    (job.convert lines s).2.files = s.files := by
  obtain ⟨counted, hconvert⟩ := job.convert_eq lines
  rw [hconvert, Session.bind_apply]
  exact files_reportChunks 0 _ s

/-- The fingerprint under which the job keeps what comes of some lines. -/
def fingerprint (job : CompileJob) (lines : List String) : UInt64 :=
  Fingerprint.ofConversion job.options job.lanes.chunkSize lines

theorem regular_convertAndKeep
    {job : CompileJob}
    {lines : List String}
    (hwritten : written (Path.place job.store.cachePath) (job.requestOf lines).cacheFile.content) :
    Session.Regular written (job.convertAndKeep (job.fingerprint lines) lines) := by
  refine .bind_value (job.regular_convert lines) fun s => ?_
  rw [convert_apply]
  refine .bind (RulesetStore.regular_writeFile hwritten) fun result => ?_
  cases result with
  | ok => exact .pure _
  | error fault => exact .bind (.say _ _) fun _ => .pure _

theorem convertAndKeep_apply
    (job : CompileJob)
    (lines : List String)
    (s : Session) :
    (job.convertAndKeep (job.fingerprint lines) lines s).1 = .ok (job.requestOf lines).rules := by
  rw [convertAndKeep, Session.bind_apply, convert_apply]
  simp only [Session.bind_apply]
  cases (job.store.saveCache (job.fingerprint lines) (job.requestOf lines).rules
    (job.convert lines s).2).1 <;> rfl

/-- Keeping what is kept already changes nothing. -/
theorem convertAndKeep_of_read
    {job : CompileJob}
    {lines : List String}
    {s : Session}
    (hread : s.files.read job.store.cachePath =
      .ok (job.requestOf lines).cacheFile.content) :
    s.files.Agrees (job.convertAndKeep (job.fingerprint lines) lines s).2.files := by
  rw [← job.files_convert lines s] at hread
  obtain ⟨hresult, hagrees⟩ := RulesetStore.writeFile_of_read hread
  have hsave : job.store.saveCache (job.fingerprint lines) (job.requestOf lines).rules =
      RulesetStore.writeFile job.store.cachePath (job.requestOf lines).cacheFile.content := rfl
  rw [convertAndKeep, Session.bind_apply, convert_apply]
  dsimp only
  rw [job.files_convert lines s] at hagrees
  rw [hsave, Session.bind_apply, hresult]
  simp only [Session.pure_apply]
  exact hagrees

/-- The rules of a cache file that has been read. -/
structure IsCached (job : CompileJob) (lines : List String) (files : Files)
    (rules : Conversion.Merged) : Prop where
  useCache : job.useCache = true
  exists_read : ∃ content cache, files.read job.store.cachePath = .ok content ∧
    CacheFile.ofContent? content = some cache ∧
    cache.fingerprint = Fingerprint.text (job.fingerprint lines) ∧ cache.rules = rules

theorem rules_of_cached
    {job : CompileJob}
    {lines : List String}
    {s said : Session}
    {cached : Conversion.Merged}
    (h : job.cachedRules (job.fingerprint lines) s = (some cached, said)) :
    job.rules lines s = (.ok cached, said) := by
  rw [rules, Session.bind_apply, ← fingerprint, h]
  rfl

theorem rules_of_notCached
    {job : CompileJob}
    {lines : List String}
    {s said : Session}
    (h : job.cachedRules (job.fingerprint lines) s = (none, said)) :
    job.rules lines s = job.convertAndKeep (job.fingerprint lines) lines said := by
  rw [rules, Session.bind_apply, ← fingerprint, h]

/-- **The rules of some lines are taken from the cache, or the lines are converted.** -/
theorem rules_apply
    (job : CompileJob)
    (lines : List String)
    (s : Session) :
    ∃ said : Session, said.files = s.files ∧ said.output = s.output ∧
      ((∃ rules, job.IsCached lines s.files rules ∧ job.rules lines s = (.ok rules, said)) ∨
        job.rules lines s = job.convertAndKeep (job.fingerprint lines) lines said) := by
  cases huse : job.useCache with
  | false =>
      have hnone : job.cachedRules (job.fingerprint lines) s = (none, s) := by
        rw [cachedRules, huse]
        rfl
      exact ⟨s, rfl, rfl, .inr (rules_of_notCached hnone)⟩
  | true =>
      have hload : job.cachedRules (job.fingerprint lines) =
          job.store.loadCache (job.fingerprint lines) := by
        rw [cachedRules, huse, if_pos rfl]
      obtain ⟨hfiles, hcached⟩ := job.store.loadCache_apply (job.fingerprint lines) s
      have hregular : Session.Regular (fun _ _ => True)
          (job.store.loadCache (job.fingerprint lines)) :=
        job.store.regular_loadCache _
      refine ⟨(job.store.loadCache (job.fingerprint lines) s).2, hfiles, hregular.quiet s, ?_⟩
      rw [← hload] at hcached ⊢
      cases hvalue : (job.cachedRules (job.fingerprint lines) s).1 with
      | none => exact .inr (rules_of_notCached (Prod.ext hvalue rfl))
      | some rules =>
          exact .inl ⟨rules, ⟨huse, hcached rules hvalue⟩, rules_of_cached (Prod.ext hvalue rfl)⟩

theorem evolves_rules
    {job : CompileJob}
    {lines : List String}
    (hwritten : written (Path.place job.store.cachePath) (job.requestOf lines).cacheFile.content)
    (s : Session) :
    Files.Evolves written s.files (job.rules lines s).2.files := by
  obtain ⟨said, hfiles, -, ⟨rules, -, hrules⟩ | hrules⟩ := job.rules_apply lines s
  · rw [hrules, ← hfiles]
    exact .refl
  · rw [hrules, ← hfiles]
    exact (regular_convertAndKeep hwritten).evolves said

/-! ## Writing -/

theorem regular_writeExtended
    {job : CompileJob}
    {text : Option String}
    (hwritten : ∀ extended ∈ text, written (Path.place job.store.extendedPath) extended.toUTF8) :
    Session.Regular written (job.writeExtended text) := by
  cases text with
  | none => exact .pure _
  | some text =>
      unfold writeExtended RulesetStore.writeExtended
      exact RulesetStore.regular_writeFile (hwritten text rfl)

/-- What comes of writing rules, step by step. -/
theorem write_apply
    (job : CompileJob)
    (rules : Conversion.Merged)
    (s : Session) :
    job.write rules s =
      let wrote := job.store.writeRulesets job.rulesetIds rules.chunks s
      let extended := job.writeExtended rules.extended wrote.2
      match extended.1 with
      | .error fault => (.error (.store fault), extended.2)
      | .ok () => (.ok (), (job.printSummary rules.chunks.length wrote.1 extended.2).2) := by
  rw [write, Session.bind_apply, Session.bind_apply]
  dsimp only
  cases (job.writeExtended rules.extended
    (job.store.writeRulesets job.rulesetIds rules.chunks s).2).1 <;> rfl

/-- When the rules have been written, it is said. -/
theorem write_ok
    {job : CompileJob}
    {rules : Conversion.Merged}
    {s : Session}
    (h : (job.write rules s).1 = .ok ()) :
    let wrote := job.store.writeRulesets job.rulesetIds rules.chunks s
    let extended := job.writeExtended rules.extended wrote.2
    extended.1 = .ok () ∧
      (job.write rules s).2 = (job.printSummary rules.chunks.length wrote.1 extended.2).2 := by
  rw [write_apply] at h ⊢
  dsimp only at h ⊢
  cases hextended : (job.writeExtended rules.extended
      (job.store.writeRulesets job.rulesetIds rules.chunks s).2).1 with
  | error fault =>
      rw [hextended] at h
      cases h
  | ok => exact ⟨rfl, rfl⟩

/-- **Writing and reloading succeeds if writing does**, and then runs the reload command. -/
theorem writeAndReload_apply
    (machine : Machine)
    (job : CompileJob)
    (rules : Conversion.Merged)
    (s : Session) :
    (job.writeAndReload machine rules s).1 = (job.write rules s).1 ∧
      Relation.ReflTransGen (ReloadRuns machine job.reloadCommand job.rulesetIds)
        (job.write rules s).2.files (job.writeAndReload machine rules s).2.files ∧
      (job.write rules s).2.output <+: (job.writeAndReload machine rules s).2.output := by
  have hreload := follows_reloadIfAsked machine job.reloadCommand job.rulesetIds
  rw [writeAndReload, Session.bind_apply]
  cases (job.write rules s).1 with
  | error fault => exact ⟨rfl, .refl, List.prefix_refl _⟩
  | ok => exact ⟨rfl, hreload.files _, hreload.output _⟩

/-- What writing the rules may write. -/
def Writes (job : CompileJob) (rules : Conversion.Merged) (place : List String)
    (content : ByteArray) : Prop :=
  (∃ id ∈ job.rulesetIds, place = Path.place (job.store.rulesetPath id) ∧
      ∃ json, (json ∈ rules.chunks ∨ json = neutralRuleset) ∧ content = json.toUTF8) ∨
    ∃ text ∈ rules.extended, place = Path.place job.store.extendedPath ∧ content = text.toUTF8

/-- **The steps of writing rules are regular**, when what the job writes may be written. -/
theorem regular_steps
    {job : CompileJob}
    {rules : Conversion.Merged}
    (hwritten : ∀ place content, job.Writes rules place content → written place content) :
    Session.Regular written (job.store.writeRulesets job.rulesetIds rules.chunks) ∧
      Session.Regular written (job.writeExtended rules.extended) := by
  refine ⟨job.store.regular_writeRulesets fun id hid json hjson => ?_,
    regular_writeExtended fun text htext => ?_⟩
  · exact hwritten _ _ (.inl ⟨id, hid, rfl, json, hjson, rfl⟩)
  · exact hwritten _ _ (.inr ⟨text, htext, rfl, rfl⟩)

theorem evolves_write
    {job : CompileJob}
    {rules : Conversion.Merged}
    (hwritten : ∀ place content, job.Writes rules place content → written place content)
    (s : Session) :
    Files.Evolves written s.files (job.write rules s).2.files := by
  obtain ⟨hrulesets, hextended⟩ := regular_steps hwritten
  have hwrote := (hrulesets.evolves s).trans (hextended.evolves _)
  rw [write_apply]
  dsimp only
  split
  · exact hwrote
  · exact hwrote

/-- **Writing rules comes to the same on files that agree.** -/
theorem respects_write
    (job : CompileJob)
    (rules : Conversion.Merged)
    {s s' : Session}
    (h : s.files.Agrees s'.files) :
    (job.write rules s).1 = (job.write rules s').1 ∧
      (job.write rules s).2.files.Agrees (job.write rules s').2.files := by
  obtain ⟨hrulesets, hextended⟩ := regular_steps fun _ _ (hwrites : job.Writes rules _ _) => hwrites
  obtain ⟨-, hfiles⟩ := hrulesets.respects s s' h
  obtain ⟨hvalue, hfiles⟩ := hextended.respects _ _ hfiles
  rw [write_apply, write_apply]
  dsimp only
  rw [hvalue]
  split
  · exact ⟨rfl, hfiles⟩
  · exact ⟨rfl, hfiles⟩

/-! ## The job -/

/-- What the job does with its lines. -/
def compileLines (machine : Machine) (job : CompileJob) (lines : List String) :
    SessionM (Except CommandFault Unit) := do
  match ← job.rules lines with
  | .error fault => return .error fault
  | .ok rules => job.writeAndReload machine rules

theorem compileLines_of_rules
    {job : CompileJob}
    {lines : List String}
    {rules : Conversion.Merged}
    {s : Session}
    (h : (job.rules lines s).1 = .ok rules) :
    job.compileLines machine lines s =
      job.writeAndReload machine rules (job.rules lines s).2 := by
  rw [compileLines, Session.bind_apply, h]

/-- The request that the job makes, if it is not refused before. -/
def request (job : CompileJob) (files : Files) : Except CommandFault Request :=
  if job.inputs.isEmpty then .error .noInputs
  else if job.rulesetIds.isEmpty then .error .noRulesetIds
  else
    match inputLines files job.inputs with
    | .error fault => .error fault
    | .ok lines => .ok (job.requestOf (lines ++ job.ownLines))

/-- **The request depends on nothing but what is read from the inputs.** -/
theorem request_congr
    {job : CompileJob}
    {files files' : Files}
    (h : ∀ path ∈ job.inputs, files.read path = files'.read path) :
    job.request files = job.request files' := by
  rw [request, request, inputLines_congr h]

theorem requestOf_lines
    {job : CompileJob}
    {files : Files}
    {r : Request}
    (h : job.request files = .ok r) :
    job.requestOf r.lines = r := by
  unfold request at h
  split at h
  · cases h
  split at h
  · cases h
  split at h
  · cases h
  · cases h
    rfl

/-- **A job is refused, or it does what it does with the lines of its request.** -/
theorem run_apply
    (machine : Machine)
    (job : CompileJob)
    (s : Session) :
    ∃ said : Session, said.files = s.files ∧ said.output = s.output ∧
      job.run machine s =
        match job.request s.files with
        | .error fault => (.error fault, said)
        | .ok request => job.compileLines machine request.lines said := by
  rw [run, request]
  split
  · exact ⟨s, rfl, rfl, rfl⟩
  split
  · exact ⟨s, rfl, rfl, rfl⟩
  obtain ⟨hvalue, hfiles, houtput⟩ := readInputs_apply job.inputs s
  refine ⟨(readInputs job.inputs s).2, hfiles, houtput, ?_⟩
  rw [Session.bind_apply, hvalue]
  cases inputLines s.files job.inputs with
  | error fault => rfl
  | ok lines => rfl

end CompileJob

namespace DisableJob

/-- **A job that resets rulesets forgets the cache**, and then writes the ruleset that does
nothing under each identifier, unless it is refused. -/
theorem run_apply
    (machine : Machine)
    (job : DisableJob)
    (s : Session) :
    ∃ cleared : Session, cleared.output = s.output ∧
      (cleared.files = s.files ∨ s.files.remove job.store.cachePath = .ok cleared.files) ∧
      ((∃ fault, job.run machine s = (.error fault, cleared)) ∨
        job.run machine s =
          let wrote := job.store.writeRulesets job.rulesetIds [] cleared
          let printed := job.printSummary wrote.1 wrote.2
          (.ok (), (reloadIfAsked machine job.reloadCommand job.rulesetIds printed.2).2)) := by
  rw [run]
  split
  · exact ⟨s, rfl, .inl rfl, .inl ⟨_, rfl⟩⟩
  obtain ⟨houtput, hfiles⟩ := job.store.clearCache_apply s
  refine ⟨(job.store.clearCache s).2, houtput, hfiles, ?_⟩
  rw [Session.bind_apply]
  cases (job.store.clearCache s).1 with
  | error fault => exact .inl ⟨_, rfl⟩
  | ok => exact .inr rfl

end DisableJob
end FilterCompiler
