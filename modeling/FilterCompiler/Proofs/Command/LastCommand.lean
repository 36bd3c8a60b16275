import FilterCompiler.Command.Run
import FilterCompiler.Proofs.Command.Compile

/-!
# What the last command leaves

A command that says that no write has failed has written every ruleset, so what is read
under its identifiers does not depend on what was there before.  The extended rules are
different: they are written if there are any, and otherwise the file of an earlier
command stays (`run_lastCommand`, `disable_keeps_extended`).  Reload commands come last,
and are taken to spare what has been written.
-/

namespace FilterCompiler

/-! ## The summary -/

/-- A number that stands between a mark and the end of a text can be told from it. -/
theorem Text.number_inj
    (before before' after : List Char)
    (mark : Char)
    {n m : Nat}
    (hmark : mark.isDigit = false)
    (h : before ++ mark :: ((toString n).toList ++ after) =
      before' ++ mark :: ((toString m).toList ++ after)) :
    n = m := by
  have hdigits : ∀ n : Nat, ∀ c ∈ (toString n).toList.reverse, ¬ c.isDigit = false := by
    intro n c hc
    rw [List.mem_reverse, Nat.toString_eq_repr, Nat.toList_repr] at hc
    simp [Nat.isDigit_of_mem_toDigits (by decide) (by decide) hc]
  have hends :
      (before ++ mark :: (toString n).toList) ++ after =
        (before' ++ mark :: (toString m).toList) ++ after := by
    simpa using h
  have hreverse := congrArg List.reverse (List.append_cancel_right hends)
  simp only [List.reverse_append, List.reverse_cons, List.append_assoc,
    List.singleton_append] at hreverse
  obtain ⟨hnumber, -⟩ := Text.append_cons_inj (fun c => c.isDigit = false)
    (hdigits n) (hdigits m) hmark hmark hreverse
  have hrepr : Nat.toDigits 10 n = Nat.toDigits 10 m := by
    simpa only [Nat.toString_eq_repr, Nat.toList_repr] using List.reverse_injective hnumber
  have hvalue := congrArg (fun digits => Nat.ofDigitChars 10 digits 0) hrepr
  simpa using hvalue

/-- Two sessions that have said the same before print the same line, if something begins
with what both have said then. -/
theorem Session.eq_of_print
    {line line' : String}
    {s s' : Session}
    {said : List String}
    (hs : s.output = s'.output)
    (h : (print line s).2.output <+: said)
    (h' : (print line' s').2.output <+: said) :
    line = line' := by
  simp only [print, hs] at h h'
  have hline := (List.prefix_of_prefix_length_le h h' (by simp)).eq_of_length (by simp)
  simpa using hline

/-- **The summary of a job tells the failures**, whatever is said after it. -/
theorem CompileJob.failures_of_summary
    {job : CompileJob}
    {chunkCount chunkCount' failures failures' : Nat}
    {s s' : Session}
    {said : List String}
    (hs : s.output = s'.output)
    (h : (job.printSummary chunkCount failures s).2.output <+: said)
    (h' : (job.printSummary chunkCount' failures' s').2.output <+: said) :
    failures = failures' := by
  have hline := Session.eq_of_print hs h h'
  let before := fun chunkCount : Nat =>
    s!"Wrote {job.rulesetIds.length} rulesets to '{job.output}' ({chunkCount} chunks,"
  refine Text.number_inj (before chunkCount).toList (before chunkCount').toList
    " write failures)".toList ' ' (by decide) ?_
  have htext : ∀ text : String, toString text = text := fun _ => rfl
  simpa [before, htext, List.append_assoc] using congrArg String.toList hline

theorem DisableJob.failures_of_summary
    {job : DisableJob}
    {failures failures' : Nat}
    {s s' : Session}
    {said : List String}
    (hs : s.output = s'.output)
    (h : (job.printSummary failures s).2.output <+: said)
    (h' : (job.printSummary failures' s').2.output <+: said) :
    failures = failures' := by
  have hline := Session.eq_of_print hs h h'
  let before := s!"Reset {job.rulesetIds.length} rulesets in '{job.output}' "
  refine Text.number_inj before.toList before.toList " write failures)".toList '(' (by decide) ?_
  simpa [before, List.append_assoc] using congrArg String.toList hline

/-! ## What stays -/

/-- The extended rules in a directory are those that were there before, or there are none
as before. -/
def RulesetStore.KeepsExtended (store : RulesetStore) (files after : Files) : Prop :=
  ∀ content, after.node? (Path.place store.extendedPath) = some (.file content) ↔
    files.node? (Path.place store.extendedPath) = some (.file content)

/-- Writing elsewhere, and leaving what is there, keeps the extended rules. -/
theorem RulesetStore.keepsExtended_of_evolves
    {store : RulesetStore}
    {files wrote after : Files}
    (h : Files.Evolves (fun place _ => place ≠ Path.place store.extendedPath) files wrote)
    (hleft : after.node? (Path.place store.extendedPath) =
      wrote.node? (Path.place store.extendedPath)) :
    store.KeepsExtended files after := by
  intro content
  rw [hleft]
  constructor
  · intro hwrote
    rcases h.file_or_new hwrote with hbefore | helsewhere
    · exact hbefore
    · exact absurd rfl helsewhere
  · intro hbefore
    exact h.file hbefore fun _ helsewhere => helsewhere rfl

/-- What is the same stays so when reload commands spare it. -/
theorem Files.SameFile.reload
    {files files' after after' : Files}
    {path : String}
    {machine machine' : Machine}
    {command : Option String}
    {ids : List String}
    (hsame : files.SameFile files' path)
    (hspares : ReloadSpares machine command ids path)
    (hspares' : ReloadSpares machine' command ids path)
    (hruns : Relation.ReflTransGen (ReloadRuns machine command ids) files after)
    (hruns' : Relation.ReflTransGen (ReloadRuns machine' command ids) files' after') :
    after.SameFile after' path := by
  obtain ⟨content, hread, hread'⟩ := hsame
  exact ⟨content, hspares.read hruns hread, hspares'.read hruns' hread'⟩

/-! ## Commands that write rulesets -/

variable {machine machine' : Machine}

namespace CompileJob

/-- The job succeeds and says that no write has failed. -/
def Completes (machine : Machine) (job : CompileJob) (files : Files) : Prop :=
  (job.run machine (.start files)).1 = .ok () ∧
    ∃ chunkCount, (job.printSummary chunkCount 0 (.start files)).2.output <+:
      (job.run machine (.start files)).2.output

/-- The state in which a job that completes begins to write the rules of its request. -/
structure Writing (machine : Machine) (job : CompileJob) (files : Files) (request : Request)
    (s : Session) : Prop where
  evolves : Files.Evolves (fun place _ => place = Path.place job.store.cachePath) files s.files
  run_eq : job.run machine (.start files) = job.writeAndReload machine request.rules s
  noFailures : (job.store.writeRulesets job.rulesetIds request.rules.chunks s).1 = 0
  write_ok : (job.write request.rules s).1 = .ok ()

/-- When rules have been written, what is said first are the failures that were counted. -/
theorem summary_isPrefixOf
    {job : CompileJob}
    {rules : Conversion.Merged}
    {s : Session}
    (h : (job.write rules s).1 = .ok ()) :
    (job.printSummary rules.chunks.length
        (job.store.writeRulesets job.rulesetIds rules.chunks s).1 s).2.output <+:
      (job.writeAndReload machine rules s).2.output := by
  obtain ⟨hrulesets, hextended⟩ := regular_steps fun _ _ (hwrites : job.Writes rules _ _) => hwrites
  have hwrote := (hextended.quiet _).trans (hrulesets.quiet s)
  obtain ⟨-, -, hsaid⟩ := job.writeAndReload_apply machine rules s
  rw [(write_ok h).2] at hsaid
  simp only [printSummary, Session.print, hwrote] at hsaid ⊢
  exact hsaid

theorem exists_writing
    {job : CompileJob}
    {files : Files}
    (hcache : job.useCache = false)
    (h : job.Completes machine files) :
    ∃ request, job.request files = .ok request ∧ ∃ s, job.Writing machine files request s := by
  obtain ⟨said, hfiles, houtput, hrun⟩ := job.run_apply machine (.start files)
  obtain ⟨hok, chunkCount, hsummary⟩ := h
  rw [Session.files_start] at hfiles hrun
  cases hrequest : job.request files with
  | error fault =>
      rw [hrun, hrequest] at hok
      cases hok
  | ok request =>
      obtain ⟨plain, hplain, hquiet, ⟨rules, hcached, -⟩ | hconverted⟩ :=
        job.rules_apply request.lines said
      · exact absurd hcached.useCache (by simp [hcache])
      have hregular : Session.Regular (fun place _ => place = Path.place job.store.cachePath)
          (job.convertAndKeep (job.fingerprint request.lines) request.lines) :=
        regular_convertAndKeep rfl
      let s := (job.convertAndKeep (job.fingerprint request.lines) request.lines plain).2
      have hwrite :
          job.run machine (.start files) = job.writeAndReload machine request.rules s := by
        have hvalue := job.convertAndKeep_apply request.lines plain
        rw [requestOf_lines hrequest, ← hconverted] at hvalue
        rw [hrun, hrequest]
        dsimp only
        rw [compileLines_of_rules hvalue, hconverted]
      have hevolves := hregular.evolves plain
      rw [hplain, hfiles] at hevolves
      obtain ⟨hvalue, -, -⟩ := job.writeAndReload_apply machine request.rules s
      rw [hwrite, hvalue] at hok
      rw [hwrite] at hsummary
      have hsaid : s.output = (Session.start files).output :=
        (hregular.quiet plain).trans (hquiet.trans houtput)
      exact ⟨request, rfl, s, hevolves, hwrite,
        failures_of_summary hsaid (summary_isPrefixOf hok) hsummary, hok⟩

/-- When extended rules have been written in both sessions they are the same there, and
what was the same stays so. -/
theorem sameFile_writeExtended
    {job : CompileJob}
    {text : Option String}
    {s s' : Session}
    (h : (job.writeExtended text s).1 = .ok ())
    (h' : (job.writeExtended text s').1 = .ok ())
    {path : String}
    (hpath : s.files.SameFile s'.files path ∨ (text.isSome ∧ path = job.store.extendedPath)) :
    (job.writeExtended text s).2.files.SameFile (job.writeExtended text s').2.files path := by
  cases text with
  | none => exact hpath.resolve_right fun hsome => by simp at hsome
  | some text =>
      have hwrite : job.writeExtended (some text) =
          RulesetStore.writeFile job.store.extendedPath text.toUTF8 := rfl
      rw [hwrite] at h h' ⊢
      have hread := RulesetStore.read_writeFile h
      have hread' := RulesetStore.read_writeFile h'
      have hregular : Session.Regular
          (fun place content =>
            place = Path.place job.store.extendedPath ∧ content = text.toUTF8)
          (RulesetStore.writeFile job.store.extendedPath text.toUTF8) :=
        RulesetStore.regular_writeFile ⟨rfl, rfl⟩
      rcases hpath with hsame | ⟨-, rfl⟩
      · exact RulesetStore.sameFile_of_written (hregular.evolves s) (hregular.evolves s')
          hread hread' hsame
      · exact ⟨_, hread, hread'⟩

/-- **What the job writes is the same, whatever was there before**, if its reload commands
spare it. -/
theorem sameFile_of_writing
    {job : CompileJob}
    {files files' : Files}
    {request : Request}
    {s s' : Session}
    (h : job.Writing machine files request s)
    (h' : job.Writing machine' files' request s')
    {path : String}
    (hpath : path ∈ job.rulesetIds.map job.store.rulesetPath ∨
      (request.rules.extended.isSome ∧ path = job.store.extendedPath))
    (hspares : ReloadSpares machine job.reloadCommand job.rulesetIds path)
    (hspares' : ReloadSpares machine' job.reloadCommand job.rulesetIds path) :
    (job.run machine (.start files)).2.files.SameFile
      (job.run machine' (.start files')).2.files path := by
  obtain ⟨hextended, hwrote⟩ := write_ok h.write_ok
  obtain ⟨hextended', hwrote'⟩ := write_ok h'.write_ok
  obtain ⟨-, hruns, -⟩ := job.writeAndReload_apply machine request.rules s
  obtain ⟨-, hruns', -⟩ := job.writeAndReload_apply machine' request.rules s'
  rw [hwrote] at hruns
  rw [hwrote'] at hruns'
  have hwritten := sameFile_writeExtended hextended hextended'
    (hpath.imp_left fun hmem =>
      RulesetStore.sameFile_writeRulesets h.noFailures h'.noFailures (.inl hmem))
  rw [h.run_eq, h'.run_eq]
  exact hwritten.reload hspares hspares' hruns hruns'

theorem keepsExtended_of_writing
    {job : CompileJob}
    {files : Files}
    {request : Request}
    {s : Session}
    (h : job.Writing machine files request s)
    (hnone : request.rules.extended = none)
    (hspares : ReloadSpares machine job.reloadCommand job.rulesetIds job.store.extendedPath) :
    job.store.KeepsExtended files (job.run machine (.start files)).2.files := by
  have hcache : Files.Evolves (fun place _ => place ≠ Path.place job.store.extendedPath)
      files s.files := by
    refine h.evolves.mono fun place _ hplace => ?_
    rw [hplace]
    exact job.store.place_extendedPath_ne.symm
  have hspared : ∀ place content, job.Writes request.rules place content →
      place ≠ Path.place job.store.extendedPath := by
    rintro place content (⟨id, -, hplace, -⟩ | ⟨text, htext, -⟩)
    · rw [hplace]
      exact job.store.place_rulesetPath_ne id
    · rw [hnone] at htext
      cases htext
  obtain ⟨-, hruns, -⟩ := job.writeAndReload_apply machine request.rules s
  rw [h.run_eq]
  exact RulesetStore.keepsExtended_of_evolves (hcache.trans (evolves_write hspared s))
    (hspares.leaves.node?_eq hruns)

end CompileJob

namespace DisableJob

/-- The job succeeds and says that no write has failed. -/
def Completes (machine : Machine) (job : DisableJob) (files : Files) : Prop :=
  (job.run machine (.start files)).1 = .ok () ∧
    (job.printSummary 0 (.start files)).2.output <+: (job.run machine (.start files)).2.output

/-- The state in which a job that completes has forgotten the cache and begins to write. -/
structure Writing (machine : Machine) (job : DisableJob) (files : Files) (s : Session) :
    Prop where
  cleared : s.files = files ∨ files.remove job.store.cachePath = .ok s.files
  noFailures : (job.store.writeRulesets job.rulesetIds [] s).1 = 0
  reloads : Relation.ReflTransGen (ReloadRuns machine job.reloadCommand job.rulesetIds)
    (job.store.writeRulesets job.rulesetIds [] s).2.files
    (job.run machine (.start files)).2.files

theorem exists_writing
    {job : DisableJob}
    {files : Files}
    (h : job.Completes machine files) :
    ∃ s, job.Writing machine files s := by
  obtain ⟨hok, hsummary⟩ := h
  obtain ⟨s, houtput, hcleared, ⟨fault, hrun⟩ | hrun⟩ := job.run_apply machine (.start files)
  · rw [hrun] at hok
    cases hok
  · have hrulesets : Session.Regular (fun _ _ => True)
        (job.store.writeRulesets job.rulesetIds []) :=
      job.store.regular_writeRulesets fun _ _ _ _ => trivial
    have hreload := follows_reloadIfAsked machine job.reloadCommand job.rulesetIds
    rw [hrun] at hsummary
    have hfailures := failures_of_summary ((hrulesets.quiet s).trans houtput)
      (hreload.output (job.printSummary _ _).2) hsummary
    refine ⟨s, hcleared, hfailures, ?_⟩
    rw [hrun]
    exact hreload.files (job.printSummary _ _).2

theorem sameFile_of_writing
    {job : DisableJob}
    {files files' : Files}
    {s s' : Session}
    (h : job.Writing machine files s)
    (h' : job.Writing machine' files' s')
    {path : String}
    (hpath : path ∈ job.rulesetIds.map job.store.rulesetPath)
    (hspares : ReloadSpares machine job.reloadCommand job.rulesetIds path)
    (hspares' : ReloadSpares machine' job.reloadCommand job.rulesetIds path) :
    (job.run machine (.start files)).2.files.SameFile
      (job.run machine' (.start files')).2.files path := by
  have hwritten := RulesetStore.sameFile_writeRulesets h.noFailures h'.noFailures (.inl hpath)
  exact hwritten.reload hspares hspares' h.reloads h'.reloads

theorem keepsExtended_of_writing
    {job : DisableJob}
    {files : Files}
    {s : Session}
    (h : job.Writing machine files s)
    (hspares : ReloadSpares machine job.reloadCommand job.rulesetIds job.store.extendedPath) :
    job.store.KeepsExtended files (job.run machine (.start files)).2.files := by
  have hcleared : s.files.node? (Path.place job.store.extendedPath) =
      files.node? (Path.place job.store.extendedPath) := by
    rcases h.cleared with hfiles | hremove
    · rw [hfiles]
    · rw [Files.node?_of_remove hremove, if_neg job.store.place_extendedPath_ne]
  have hrulesets : Session.Regular (fun place _ => place ≠ Path.place job.store.extendedPath)
      (job.store.writeRulesets job.rulesetIds []) :=
    job.store.regular_writeRulesets fun id _ _ _ => job.store.place_rulesetPath_ne id
  have hkept : job.store.KeepsExtended s.files (job.run machine (.start files)).2.files :=
    RulesetStore.keepsExtended_of_evolves (hrulesets.evolves s)
      (hspares.leaves.node?_eq h.reloads)
  intro content
  rw [hkept content, hcleared]

end DisableJob

/-! ## The last command -/

namespace Command

/-- The store to which a command writes rulesets, and their identifiers. -/
def target? : Command → Option (RulesetStore × List String)
  | compile job => some (job.store, job.rulesetIds)
  | validate _ _ => none
  | disable job => some (job.store, job.rulesetIds)

/-- The reload command that is given. -/
def reloadCommand : Command → Option String
  | compile job => job.reloadCommand
  | validate _ _ => none
  | disable job => job.reloadCommand

/-- The command takes nothing from a cache. -/
def ignoresCache : Command → Bool
  | compile job => !job.useCache
  | validate _ _ | disable _ => true

/-- The command reads the same from its inputs. -/
def SameInputs : Command → Files → Files → Prop
  | compile job, files, files' => job.request files = job.request files'
  | validate _ _, _, _ | disable _, _, _ => True

/-- The command succeeds and says that no write has failed. -/
def Completes (machine : Machine) : Command → Files → Prop
  | compile job, files => job.Completes machine files
  | validate _ _, _ => False
  | disable job, files => job.Completes machine files

/-- The extended rules that the command comes to. -/
def extended? : Command → Files → Option String
  | compile job, files =>
      match job.request files with
      | .ok request => request.rules.extended
      | .error _ => none
  | validate _ _, _ | disable _, _ => none

/-- **The last command determines the rulesets, but not the extended rules.**  Take two
values of the files, and a command that completes on both; its reload commands, which may
be run on machines that differ, spare the rulesets and the extended rules.  Afterwards the
same is read under each of its identifiers.  If it comes to extended rules, the same
extended rules are read; if it does not, the extended rules are those that were there
before. -/
theorem run_lastCommand
    (command : Command)
    (store : RulesetStore)
    (ids : List String)
    (machine machine' : Machine)
    (files files' : Files)
    (htarget : command.target? = some (store, ids))
    (hcache : command.ignoresCache = true)
    (hinputs : command.SameInputs files files')
    (hspares : ∀ path ∈ store.extendedPath :: ids.map store.rulesetPath,
      ReloadSpares machine command.reloadCommand ids path ∧
        ReloadSpares machine' command.reloadCommand ids path)
    (h : command.Completes machine files)
    (h' : command.Completes machine' files') :
    let after := (command.run machine (.start files)).2.files
    let after' := (command.run machine' (.start files')).2.files
    (∀ id ∈ ids, after.SameFile after' (store.rulesetPath id)) ∧
      ((command.extended? files).isSome → after.SameFile after' store.extendedPath) ∧
      (command.extended? files = none →
        store.KeepsExtended files after ∧ store.KeepsExtended files' after') := by
  rw [List.forall_mem_cons] at hspares
  obtain ⟨⟨hspares, hspares'⟩, hrulesets⟩ := hspares
  cases command with
  | validate input version => cases htarget
  | compile job =>
      cases htarget
      have huse : job.useCache = false := by simpa [ignoresCache] using hcache
      obtain ⟨request, hrequest, s, hwriting⟩ := CompileJob.exists_writing huse h
      obtain ⟨request', hrequest', s', hwriting'⟩ := CompileJob.exists_writing huse h'
      have hsame : job.request files = job.request files' := hinputs
      rw [hsame, hrequest'] at hrequest
      cases hrequest
      have hextended : extended? (compile job) files = request.rules.extended := by
        rw [extended?, hsame, hrequest']
      rw [hextended]
      refine ⟨fun id hid => ?_, fun hsome => ?_, fun hnone => ⟨?_, ?_⟩⟩
      · have hmem : job.store.rulesetPath id ∈ job.rulesetIds.map job.store.rulesetPath :=
          List.mem_map_of_mem hid
        obtain ⟨hruleset, hruleset'⟩ := hrulesets _ hmem
        exact CompileJob.sameFile_of_writing hwriting hwriting' (.inl hmem) hruleset hruleset'
      · exact CompileJob.sameFile_of_writing hwriting hwriting' (.inr ⟨hsome, rfl⟩)
          hspares hspares'
      · exact CompileJob.keepsExtended_of_writing hwriting hnone hspares
      · exact CompileJob.keepsExtended_of_writing hwriting' hnone hspares'
  | disable job =>
      cases htarget
      obtain ⟨s, hwriting⟩ := DisableJob.exists_writing h
      obtain ⟨s', hwriting'⟩ := DisableJob.exists_writing h'
      refine ⟨fun id hid => ?_, fun hsome => ?_, fun _ => ⟨?_, ?_⟩⟩
      · have hmem : job.store.rulesetPath id ∈ job.rulesetIds.map job.store.rulesetPath :=
          List.mem_map_of_mem hid
        obtain ⟨hruleset, hruleset'⟩ := hrulesets _ hmem
        exact DisableJob.sameFile_of_writing hwriting hwriting' hmem hruleset hruleset'
      · simp [extended?] at hsome
      · exact DisableJob.keepsExtended_of_writing hwriting hspares
      · exact DisableJob.keepsExtended_of_writing hwriting' hspares'

/-- A list with an extended rule is compiled into an empty directory, and into one that
holds the extended rules of an earlier list; the reload command makes files elsewhere. -/
theorem run_lastCommand_extended :
    let line := "a.example#%#window.x = 1;"
    let input : List String × Node := (["in.txt"], .file (line ++ "\n").toUTF8)
    let files : Files := { nodes := [input] }
    let files' : Files :=
      { nodes :=
          [input, (["rulesets"], .directory),
           (["rulesets", "advanced_rules.txt"], .file "b.example#%#window.y = 2;".toUTF8)] }
    let job : CompileJob :=
      { inputs := ["in.txt"]
        output := "rulesets"
        options := { version := .v17, advanced := true, maxJsonSize := none }
        lanes := { chunkSize := 10, lanes := 2 }
        rulesetIds := ["a", "b"]
        allow := []
        only := []
        reloadCommand := some "touch reloaded"
        useCache := false }
    let command := compile job
    let after := (command.run .small (.start files)).2.files
    let after' := (command.run .small (.start files')).2.files
    command.target? = some (job.store, ["a", "b"]) ∧ command.ignoresCache = true ∧
      command.SameInputs files files' ∧
      (∀ path ∈ job.store.extendedPath :: ["a", "b"].map job.store.rulesetPath,
        ReloadSpares .small command.reloadCommand ["a", "b"] path ∧
          ReloadSpares .small command.reloadCommand ["a", "b"] path) ∧
      command.Completes .small files ∧ command.Completes .small files' ∧
      (∀ id ∈ ["a", "b"], after.SameFile after' (job.store.rulesetPath id)) ∧
      ((command.extended? files).isSome → after.SameFile after' job.store.extendedPath) ∧
      (command.extended? files = none →
        job.store.KeepsExtended files after ∧ job.store.KeepsExtended files' after') := by
  intro line input files files' job command after after'
  have hinputs : job.request files = job.request files' := by decide +kernel
  have hspares : ∀ path ∈ job.store.extendedPath :: ["a", "b"].map job.store.rulesetPath,
      ReloadSpares .small command.reloadCommand ["a", "b"] path := by
    have hplace : ∀ path ∈ job.store.extendedPath :: ["a", "b"].map job.store.rulesetPath,
        ∀ id ∈ ["a", "b"], ∀ other ∈ ["reloaded"] ++ [id], Path.place path ≠ Path.place other := by
      decide
    exact fun path hpath => Machine.reloadSpares_touch (by decide) (hplace path hpath)
  have hboth := fun path hpath => And.intro (hspares path hpath) (hspares path hpath)
  have h : job.Completes .small files := ⟨by decide +kernel, 1, by decide +kernel⟩
  have h' : job.Completes .small files' := ⟨by decide +kernel, 1, by decide +kernel⟩
  exact ⟨rfl, rfl, hinputs, hboth, h, h',
    run_lastCommand command job.store ["a", "b"] .small .small files files' rfl rfl hinputs hboth
      h h'⟩

/-- Rulesets are reset in an empty directory, and in one that holds the extended rules of
an earlier list: these stay. -/
theorem disable_keeps_extended :
    let rules := "a.example#%#window.x = 1;"
    let files' : Files :=
      { nodes :=
          [(["rulesets"], .directory),
           (["rulesets", "advanced_rules.txt"], .file rules.toUTF8)] }
    let job : DisableJob :=
      { output := "rulesets", rulesetIds := ["a"], reloadCommand := none }
    let command := disable job
    let after := (command.run .small (.start .empty)).2.files
    let after' := (command.run .small (.start files')).2.files
    command.Completes .small .empty ∧ command.Completes .small files' ∧
      after.read job.store.extendedPath = .error .notFound ∧
      after'.read job.store.extendedPath = .ok rules.toUTF8 := by
  intro rules files' job command after after'
  exact ⟨⟨by decide +kernel, by decide +kernel⟩, ⟨by decide +kernel, by decide +kernel⟩,
    by decide +kernel, by decide +kernel⟩

end Command

end FilterCompiler
