import FilterCompiler.Proofs.Command.Compile

/-!
# The cache changes nothing but the time

A directory in which only jobs write holds no cache file but those of requests that have
been made (`Honest`): this is so before there is any, and every job keeps it so, because
the only other files that a job may write in the place of the cache are rulesets, and its
reload command leaves the cache.  A cache file with the fingerprint of a request then holds
the rules of that request, and writing it again would change nothing.  The main result is
`run_cacheTransparent`.
-/

namespace FilterCompiler

variable {place : List String} {asked : List Request} {files after : Files}

/-! ## What the cache file can be -/

/-- The place of the cache in the directory at a place. -/
def cachePlace (place : List String) : List String := place ++ ["cached_rules.json"]

/-- The content is that of the cache file of a request, or does not read as a cache
file. -/
def IsHonest (asked : List Request) (content : ByteArray) : Prop :=
  (∃ r ∈ asked, content = r.cacheFile.content) ∨ CacheFile.ofContent? content = none

/-- The file in the place of the cache, if there is one, is the cache file of a request,
or does not read as a cache file. -/
def Honest (place : List String) (asked : List Request) (files : Files) : Prop :=
  ∀ content, files.node? (cachePlace place) = some (.file content) → IsHonest asked content

theorem IsHonest.text
    (entries : List Entry) :
    IsHonest asked (Ruleset.text entries).toUTF8 :=
  .inr (CacheFile.ofContent?_text entries)

/-- What is written keeps to the cache files of requests. -/
def WritesHonestly (place : List String) (asked : List Request) (target : List String)
    (content : ByteArray) : Prop :=
  target = cachePlace place → IsHonest asked content

/-- **A step that writes honestly keeps the cache honest.** -/
theorem Honest.evolves
    (h : Honest place asked files)
    (hevolves : Files.Evolves (WritesHonestly place asked) files after) :
    Honest place asked after := by
  intro content hnode
  rcases hevolves.file_or_new hnode with hbefore | hwritten
  · exact h content hbefore
  · exact hwritten rfl

/-- Files with the same in the place of the cache are as honest. -/
theorem Honest.of_node?_eq
    (h : Honest place asked files)
    (hcache : after.node? (cachePlace place) = files.node? (cachePlace place)) :
    Honest place asked after :=
  fun content hnode => h content (hcache ▸ hnode)

/-- A cache file that is read has the rules of its request. -/
theorem Honest.exists_request
    (store : RulesetStore)
    {content : ByteArray}
    {cache : CacheFile}
    (h : Honest (Path.place store.directory) asked files)
    (hread : files.read store.cachePath = .ok content)
    (hcache : CacheFile.ofContent? content = some cache) :
    ∃ r ∈ asked, content = r.cacheFile.content ∧ cache = r.cacheFile := by
  rw [Files.read_eq_ok_iff, store.place_cachePath] at hread
  rcases h content hread.2 with ⟨r, hr, hcontent⟩ | hnone
  · rw [hcontent, CacheFile.ofContent?_content, Option.some_inj] at hcache
    exact ⟨r, hr, hcontent, hcache.symm⟩
  · rw [hnone] at hcache
    cases hcache

/-! ## What jobs write -/

namespace CompileJob

/-- The rules of the job are those of a request, from the cache or of its own. -/
theorem exists_request_of_rules
    {job : CompileJob}
    {lines : List String}
    {s : Session}
    {result : Except CommandFault Conversion.Merged}
    (hhonest : Honest (Path.place job.output) asked s.files)
    (hasked : job.requestOf lines ∈ asked)
    (h : (job.rules lines s).1 = result) :
    ∃ r ∈ asked, result = .ok r.rules := by
  obtain ⟨said, hfiles, -, ⟨rules, hcached, hrules⟩ | hrules⟩ := job.rules_apply lines s
  · obtain ⟨content, cache, hread, hcontent, -, rfl⟩ := hcached.exists_read
    obtain ⟨r, hr, -, rfl⟩ := hhonest.exists_request job.store hread hcontent
    rw [hrules] at h
    exact ⟨r, hr, h.symm⟩
  · rw [hrules, convertAndKeep_apply] at h
    exact ⟨_, hasked, h.symm⟩

/-- What a job may write when requests have been made. -/
def MayWrite (job : CompileJob) (asked : List Request) (target : List String)
    (content : ByteArray) : Prop :=
  ∃ r ∈ asked, (target = Path.place job.store.cachePath ∧ content = r.cacheFile.content) ∨
    job.Writes r.rules target content

theorem MayWrite.writesHonestly
    {job : CompileJob}
    {target : List String}
    {content : ByteArray}
    (h : job.MayWrite asked target content) :
    WritesHonestly (Path.place job.output) asked target content := by
  intro htarget
  obtain ⟨r, hr, ⟨-, hcontent⟩ | ⟨id, -, -, json, hjson, hcontent⟩ | ⟨text, -, hextended, -⟩⟩ := h
  · exact .inl ⟨r, hr, hcontent⟩
  · have htext : ∃ entries, json = Ruleset.text entries := by
      rcases hjson with hjson | hjson
      · exact Request.exists_of_mem_chunks hjson
      · exact ⟨_, hjson⟩
    obtain ⟨entries, hentries⟩ := htext
    rw [hcontent, hentries]
    exact .text entries
  · have hplace := job.store.place_cachePath
    rw [htarget] at hextended
    exact absurd (hextended.symm.trans hplace.symm) job.store.place_extendedPath_ne

/-- **A job writes the cache files and the rules of requests**, and then runs its reload
command. -/
theorem evolves_run
    {job : CompileJob}
    (machine : Machine)
    (hhonest : Honest (Path.place job.output) asked files)
    (hasked : ∀ request, job.request files = .ok request → request ∈ asked) :
    ∃ wrote, Files.Evolves (job.MayWrite asked) files wrote ∧
      Relation.ReflTransGen (ReloadRuns machine job.reloadCommand job.rulesetIds)
        wrote (job.run machine (.start files)).2.files := by
  obtain ⟨said, hfiles, -, hrun⟩ := job.run_apply machine (.start files)
  rw [Session.files_start] at hfiles hrun
  rw [hrun, ← hfiles]
  rw [← hfiles] at hhonest
  cases hrequest : job.request said.files with
  | error fault => exact ⟨said.files, .refl, .refl⟩
  | ok request =>
      have hmem : job.requestOf request.lines ∈ asked := by
        rw [requestOf_lines hrequest]
        exact hasked request (hfiles ▸ hrequest)
      have hkept : job.MayWrite asked (Path.place job.store.cachePath)
          (job.requestOf request.lines).cacheFile.content :=
        ⟨_, hmem, .inl ⟨rfl, rfl⟩⟩
      obtain ⟨r, hr, hrules⟩ := exists_request_of_rules hhonest hmem rfl
      obtain ⟨-, hreload, -⟩ :=
        job.writeAndReload_apply machine r.rules (job.rules request.lines said).2
      dsimp only
      rw [compileLines_of_rules hrules]
      exact ⟨_, (evolves_rules hkept said).trans
        (evolves_write (fun _ _ hwrites => ⟨r, hr, .inr hwrites⟩) _), hreload⟩

/-- A job keeps the cache honest if its reload command leaves the cache. -/
theorem honest_run
    {job : CompileJob}
    {machine : Machine}
    (hleaves :
      ReloadLeaves machine job.reloadCommand job.rulesetIds (cachePlace (Path.place job.output)))
    (hhonest : Honest (Path.place job.output) asked files)
    (hasked : ∀ request, job.request files = .ok request → request ∈ asked) :
    Honest (Path.place job.output) asked (job.run machine (.start files)).2.files := by
  obtain ⟨wrote, hevolves, hreload⟩ := evolves_run machine hhonest hasked
  have hwrote : Honest (Path.place job.output) asked wrote :=
    hhonest.evolves (hevolves.mono fun _ _ hwrites => hwrites.writesHonestly)
  exact hwrote.of_node?_eq (hleaves.node?_eq hreload)

end CompileJob

namespace DisableJob

/-- Resetting forgets the cache or leaves it, and then writes rulesets that do nothing. -/
theorem honest_run
    {job : DisableJob}
    {machine : Machine}
    (hleaves :
      ReloadLeaves machine job.reloadCommand job.rulesetIds (cachePlace (Path.place job.output)))
    (hhonest : Honest (Path.place job.output) asked files) :
    Honest (Path.place job.output) asked (job.run machine (.start files)).2.files := by
  obtain ⟨cleared, -, hcleared, hrun⟩ := job.run_apply machine (.start files)
  have hkept : Honest (Path.place job.output) asked cleared.files := by
    rcases hcleared with hfiles | hremove
    · rw [hfiles]
      exact hhonest
    · intro content hnode
      have hplace : cachePlace (Path.place job.output) = Path.place job.store.cachePath :=
        job.store.place_cachePath.symm
      rw [Files.node?_of_remove hremove, if_pos hplace] at hnode
      cases hnode
  rcases hrun with ⟨fault, hrun⟩ | hrun
  · rw [hrun]
    exact hkept
  · have hwrite : Session.Regular (WritesHonestly (Path.place job.output) asked)
        (job.store.writeRulesets job.rulesetIds []) := by
      refine job.store.regular_writeRulesets fun id _ json hjson _ => ?_
      rw [hjson.resolve_left List.not_mem_nil]
      exact .text _
    have hreload := follows_reloadIfAsked machine job.reloadCommand job.rulesetIds
    rw [hrun]
    exact (hkept.evolves (hwrite.evolves cleared)).of_node?_eq
      (hleaves.node?_eq (hreload.files (job.printSummary _ _).2))

end DisableJob

/-! ## Histories -/

/-- The files that may come of jobs that use the directory at a place, when nobody else
writes the cache in it.  At first there is no cache; the requests that the jobs make are
among those asked. -/
inductive Reachable (place : List String) (asked : List Request) : Files → Prop
  | start {files : Files}
      (hnone : ∀ content, files.node? (cachePlace place) ≠ some (.file content)) :
      Reachable place asked files
  /-- Other files change. -/
  | elsewhere {files after : Files} (h : Reachable place asked files)
      (hcache : after.node? (cachePlace place) = files.node? (cachePlace place)) :
      Reachable place asked after
  | compile {files : Files} (h : Reachable place asked files) (machine : Machine)
      (job : CompileJob) (hplace : Path.place job.output = place)
      (hleaves : ReloadLeaves machine job.reloadCommand job.rulesetIds (cachePlace place))
      (hasked : ∀ request, job.request files = .ok request → request ∈ asked) :
      Reachable place asked (job.run machine (.start files)).2.files
  | disable {files : Files} (h : Reachable place asked files) (machine : Machine)
      (job : DisableJob) (hplace : Path.place job.output = place)
      (hleaves : ReloadLeaves machine job.reloadCommand job.rulesetIds (cachePlace place)) :
      Reachable place asked (job.run machine (.start files)).2.files

/-- **Whatever jobs there have been, the cache is honest.** -/
theorem Reachable.honest
    (h : Reachable place asked files) :
    Honest place asked files := by
  induction h with
  | start hnone => exact fun content hnode => absurd hnode (hnone content)
  | elsewhere h hcache ih => exact ih.of_node?_eq hcache
  | compile h machine job hplace hleaves hasked ih =>
      subst hplace
      exact CompileJob.honest_run hleaves ih hasked
  | disable h machine job hplace hleaves ih =>
      subst hplace
      exact DisableJob.honest_run hleaves ih

/-! ## With and without the cache -/

namespace CompileJob

/-- The job with the cache, or without it. -/
def withCache (job : CompileJob) (useCache : Bool) : CompileJob := { job with useCache }

/-- Rules that are taken from the cache are those of the request, and they are kept under
its fingerprint already. -/
theorem eq_rules_of_isCached
    (job : CompileJob)
    {lines : List String}
    {rules : Conversion.Merged}
    (hproper : ∀ r ∈ asked, r.IsProper)
    (hhash : ∀ r ∈ asked, ∀ r' ∈ asked,
      Hash.ofBytes r.stream = Hash.ofBytes r'.stream → r.stream = r'.stream)
    (hhonest : Honest (Path.place job.output) asked files)
    (hasked : job.requestOf lines ∈ asked)
    (h : job.IsCached lines files rules) :
    rules = (job.requestOf lines).rules ∧
      files.read job.store.cachePath = .ok (job.requestOf lines).cacheFile.content := by
  obtain ⟨content, cache, hread, hcontent, hfingerprint, hrules⟩ := h.exists_read
  obtain ⟨r, hr, hkept, hcache⟩ := hhonest.exists_request job.store hread hcontent
  rw [hcache] at hfingerprint hrules
  have hstream : r.stream = (job.requestOf lines).stream :=
    hhash r hr _ hasked (Fingerprint.text_injective hfingerprint)
  have hsame : r.rules = (job.requestOf lines).rules :=
    Request.rules_eq_of_stream_eq (hproper r hr) (hproper _ hasked) hstream
  have hfile : r.cacheFile = (job.requestOf lines).cacheFile := by
    rw [Request.cacheFile, Request.cacheFile, hstream, hsame]
  exact ⟨hrules.symm.trans hsame, by rw [hread, hkept, hfile]⟩

/-- With the cache or without it, the rules are those of the request, and the files are
the same. -/
theorem rules_withCache
    {job : CompileJob}
    {lines : List String}
    {s s' : Session}
    (hproper : ∀ r ∈ asked, r.IsProper)
    (hhash : ∀ r ∈ asked, ∀ r' ∈ asked,
      Hash.ofBytes r.stream = Hash.ofBytes r'.stream → r.stream = r'.stream)
    (hfiles : s.files = s'.files)
    (hhonest : Honest (Path.place job.output) asked s.files)
    (hasked : job.requestOf lines ∈ asked) :
    ((job.withCache true).rules lines s).1 = .ok (job.requestOf lines).rules ∧
      ((job.withCache false).rules lines s').1 = .ok (job.requestOf lines).rules ∧
      ((job.withCache true).rules lines s).2.files.Agrees
        ((job.withCache false).rules lines s').2.files := by
  obtain ⟨plain, hplain, -, ⟨rules, hcached, -⟩ | hconverted⟩ :=
    (job.withCache false).rules_apply lines s'
  · exact absurd hcached.useCache (by simp [withCache])
  rw [hconverted]
  obtain ⟨said, hsaid, -, ⟨rules, hcached, hrules⟩ | hrules⟩ :=
    (job.withCache true).rules_apply lines s
  · obtain ⟨hsame, hread⟩ :=
      eq_rules_of_isCached (job.withCache true) hproper hhash hhonest hasked hcached
    rw [hrules, hsame]
    refine ⟨rfl, convertAndKeep_apply _ _ _, ?_⟩
    rw [hsaid, hfiles, ← hplain]
    rw [hfiles, ← hplain] at hread
    exact convertAndKeep_of_read hread
  · have hregular : Session.Regular (fun _ _ => True)
        (job.convertAndKeep (job.fingerprint lines) lines) :=
      regular_convertAndKeep trivial
    have hagrees : said.files.Agrees plain.files := by
      rw [hsaid, hplain, hfiles]
      exact .refl
    rw [hrules]
    exact ⟨convertAndKeep_apply _ _ _, convertAndKeep_apply _ _ _,
      (hregular.respects said plain hagrees).2⟩

/-- Writing and reloading comes to the same on files that agree, wherever the reload
commands leave what is there. -/
theorem writeAndReload_agrees
    {job : CompileJob}
    {machine machine' : Machine}
    {rules : Conversion.Merged}
    {s s' : Session}
    (h : s.files.Agrees s'.files) :
    (job.writeAndReload machine rules s).1 = (job.writeAndReload machine' rules s').1 ∧
      ∀ inside, ReloadLeaves machine job.reloadCommand job.rulesetIds inside →
        ReloadLeaves machine' job.reloadCommand job.rulesetIds inside →
          (job.writeAndReload machine rules s).2.files.node? inside =
            (job.writeAndReload machine' rules s').2.files.node? inside := by
  obtain ⟨hvalue, hruns, -⟩ := job.writeAndReload_apply machine rules s
  obtain ⟨hvalue', hruns', -⟩ := job.writeAndReload_apply machine' rules s'
  obtain ⟨hsame, hwrote⟩ := job.respects_write rules h
  refine ⟨hvalue.trans (hsame.trans hvalue'.symm), fun inside hleaves hleaves' => ?_⟩
  rw [hleaves.node?_eq hruns, hleaves'.node?_eq hruns']
  exact hwrote inside

/-- **The cache changes nothing.**  Take any files that may come of jobs that use a
directory, and a job that uses it too.  If no two byte streams of the requests that are
made have the same hash, the job comes to the same with the cache and without it: it
succeeds or fails with the same fault, and leaves the same at every place that its reload
commands leave alone: in the whole directory, if nobody else writes there.  The two runs
may be made on machines that differ. -/
theorem run_cacheTransparent
    (place : List String)
    (asked : List Request)
    (files : Files)
    (machine machine' : Machine)
    (job : CompileJob)
    (hproper : ∀ r ∈ asked, r.IsProper)
    (hhash : ∀ r ∈ asked, ∀ r' ∈ asked,
      Hash.ofBytes r.stream = Hash.ofBytes r'.stream → r.stream = r'.stream)
    (hreachable : Reachable place asked files)
    (hplace : Path.place job.output = place)
    (hasked : ∀ request, job.request files = .ok request → request ∈ asked) :
    let cached := (job.withCache true).run machine (.start files)
    let plain := (job.withCache false).run machine' (.start files)
    cached.1 = plain.1 ∧
      ∀ inside, ReloadLeaves machine job.reloadCommand job.rulesetIds inside →
        ReloadLeaves machine' job.reloadCommand job.rulesetIds inside →
          cached.2.files.node? inside = plain.2.files.node? inside := by
  intro cached plain
  subst hplace
  obtain ⟨said, hsaid, -, hcached⟩ := (job.withCache true).run_apply machine (.start files)
  obtain ⟨said', hsaid', -, hplain⟩ := (job.withCache false).run_apply machine' (.start files)
  have hhonest := hreachable.honest
  rw [Session.files_start] at hsaid hsaid' hcached hplain
  have hcached : cached = _ := hcached
  have hplain : plain = _ := hplain
  rw [hcached, hplain]
  have hsame : ∀ useCache, (job.withCache useCache).request files = job.request files :=
    fun _ => rfl
  rw [hsame, hsame]
  cases hrequest : job.request files with
  | error fault =>
      dsimp only
      rw [hsaid, hsaid']
      exact ⟨rfl, fun _ _ _ => rfl⟩
  | ok request =>
      have hmem : job.requestOf request.lines ∈ asked := by
        rw [requestOf_lines hrequest]
        exact hasked request hrequest
      obtain ⟨hvalue, hvalue', hfiles⟩ := rules_withCache hproper hhash (hsaid.trans hsaid'.symm)
        (hsaid.symm ▸ hhonest) hmem
      dsimp only
      rw [compileLines_of_rules hvalue, compileLines_of_rules hvalue']
      exact writeAndReload_agrees hfiles

/-- A job that is run again finds what it kept; its reload command makes files beside the
directory. -/
theorem run_withCache_again :
    let line := "a.example#%#window.x = 1;"
    let base : Files := { nodes := [(["in.txt"], .file (line ++ "\n").toUTF8)] }
    let job : CompileJob :=
      { inputs := ["in.txt"]
        output := "rulesets"
        options := { version := .v17, advanced := true, maxJsonSize := none }
        lanes := { chunkSize := 10, lanes := 2 }
        rulesetIds := ["a", "b"]
        allow := []
        only := []
        reloadCommand := some "touch reloaded"
        useCache := true }
    let request := job.requestOf [line]
    let files := (job.run .small (.start base)).2.files
    (∀ r ∈ [request], r.IsProper) ∧
      (∀ r ∈ [request], ∀ r' ∈ [request],
        Hash.ofBytes r.stream = Hash.ofBytes r'.stream → r.stream = r'.stream) ∧
      Reachable ["rulesets"] [request] files ∧
      Path.place job.output = ["rulesets"] ∧
      (∀ made, job.request files = .ok made → made ∈ [request]) ∧
      (∀ inside, ["rulesets"] <+: inside →
        ReloadLeaves .small job.reloadCommand job.rulesetIds inside) ∧
      let cached := (job.withCache true).run .small (.start files)
      let plain := (job.withCache false).run .small (.start files)
      cached.1 = plain.1 ∧
        ∀ inside, ["rulesets"] <+: inside →
          cached.2.files.node? inside = plain.2.files.node? inside := by
  intro line base job request files
  have hread : base.read "in.txt" = .ok (line ++ "\n").toUTF8 := by decide +kernel
  have hproper : ∀ r ∈ [request], r.IsProper := by
    rw [List.forall_mem_singleton]
    exact ⟨⟨by simp [request, requestOf, job], by decide, by decide⟩, by decide +kernel⟩
  have hhash : ∀ r ∈ [request], ∀ r' ∈ [request],
      Hash.ofBytes r.stream = Hash.ofBytes r'.stream → r.stream = r'.stream := by
    simp
  have hplace : Path.place job.output = ["rulesets"] := by decide
  -- the reload command makes `reloaded`, `a` and `b`
  have hparse : ReloadCommand.parse? "touch reloaded" =
      some { program := "touch", args := ["reloaded"] } := by decide
  have hleaves : ∀ inside : List String,
      (∀ id ∈ job.rulesetIds, ∀ path ∈ ["reloaded"] ++ [id], inside ≠ Path.place path) →
        ReloadLeaves .small job.reloadCommand job.rulesetIds inside :=
    fun inside => Machine.reloadLeaves_touch hparse
  have hbeside : ∀ inside, ["rulesets"] <+: inside →
      ReloadLeaves .small job.reloadCommand job.rulesetIds inside := by
    rintro inside ⟨names, rfl⟩
    refine hleaves _ fun id hid path hpath hinside => ?_
    have hothers : ∀ id ∈ job.rulesetIds, ∀ path ∈ ["reloaded"] ++ [id],
        (Path.place path).head? ≠ some "rulesets" := by decide
    exact hothers id hid path hpath (hinside ▸ rfl)
  have hasked : ∀ made, job.request base = .ok made → made ∈ [request] := by
    intro made hmade
    have hrequest : job.request base = .ok request := by decide +kernel
    rw [hrequest] at hmade
    cases hmade
    exact List.mem_singleton_self _
  have hstart : Reachable ["rulesets"] [request] base :=
    .start fun content => by
      have hnone : base.node? (cachePlace ["rulesets"]) = none := by decide
      simp [hnone]
  have hreachable : Reachable ["rulesets"] [request] files :=
    .compile hstart .small job hplace (hbeside _ (List.prefix_append _ _)) hasked
  obtain ⟨wrote, hevolves, hreload⟩ :=
    evolves_run .small (hplace ▸ hstart.honest) hasked
  have hspared : ∀ content, ¬ job.MayWrite [request] (Path.place "in.txt") content := by
    rintro content ⟨r, -, ⟨hcache, -⟩ | ⟨id, hid, hruleset, -⟩ | ⟨text, -, hextended, -⟩⟩
    · exact absurd hcache (by decide)
    · have hids : ∀ id ∈ job.rulesetIds,
          Path.place "in.txt" ≠ Path.place (job.store.rulesetPath id) := by decide
      exact hids id hid hruleset
    · exact absurd hextended (by decide)
  have hinput : ReloadSpares .small job.reloadCommand job.rulesetIds "in.txt" :=
    Machine.reloadSpares_touch hparse (by decide)
  -- neither the job nor its reload command has changed its input
  have hstays : files.read "in.txt" = .ok (line ++ "\n").toUTF8 :=
    hinput.read hreload (hevolves.read hread hspared)
  have hsame : job.request files = job.request base :=
    request_congr (List.forall_mem_singleton.mpr (hstays.trans hread.symm))
  have hasked' : ∀ made, job.request files = .ok made → made ∈ [request] := by
    rw [hsame]
    exact hasked
  obtain ⟨hvalue, hnodes⟩ := run_cacheTransparent ["rulesets"] [request] files .small .small job
    hproper hhash hreachable hplace hasked'
  exact ⟨hproper, hhash, hreachable, hplace, hasked', hbeside, hvalue,
    fun inside hinside => hnodes inside (hbeside inside hinside) (hbeside inside hinside)⟩

end CompileJob

end FilterCompiler
