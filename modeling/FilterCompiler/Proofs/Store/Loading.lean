import FilterCompiler.Proofs.Store.Cache

/-!
# Loading what has been saved

The cache file decides what is loaded (`loadCache_eq_some_iff`).  Hence rules that have been
saved under a fingerprint are loaded under it and under no other, and none are loaded after
the cache has been cleared (`loadCache_faithful`).
-/

namespace FilterCompiler

/-- A file that is read can be removed. -/
theorem Files.remove_of_read
    {files : Files}
    {path : String}
    {content : ByteArray}
    (h : files.read path = .ok content) :
    files.remove path = .ok (files.erase (Path.place path)) := by
  obtain ⟨hleads, hnode⟩ := (files.read_eq_ok_iff path content).mp h
  exact (files.remove_eq_ok_iff path _).mpr ⟨hleads, ⟨content, hnode⟩, rfl⟩

namespace RulesetStore

variable {store : RulesetStore} {s : Session} {fingerprint : UInt64} {rules : Conversion.Merged}

/-- **Rules are loaded if and only if the cache file has them under the fingerprint.** -/
theorem loadCache_eq_some_iff :
    (store.loadCache fingerprint s).1 = some rules ↔
      ∃ content, s.files.read store.cachePath = .ok content ∧
        CacheFile.ofContent? content =
          some { fingerprint := Fingerprint.text fingerprint, rules } := by
  constructor
  · intro h
    obtain ⟨content, cache, hread, hcache, hfingerprint, hrules⟩ :=
      (store.loadCache_apply fingerprint s).2 rules h
    exact ⟨content, hread, by rw [hcache, ← hfingerprint, ← hrules]⟩
  · rintro ⟨content, hread, hcache⟩
    rw [loadCache, Session.bind_apply]
    dsimp only [Session.getFiles]
    simp only [hread, hcache, if_true]
    rfl

theorem read_saveCache
    (h : (store.saveCache fingerprint rules s).1 = .ok ()) :
    (store.saveCache fingerprint rules s).2.files.read store.cachePath =
      .ok (CacheFile.content { fingerprint := Fingerprint.text fingerprint, rules }) := by
  unfold saveCache at h ⊢
  exact read_writeFile h

/-- After rules have been saved, they are loaded under their fingerprint, and only they. -/
theorem loadCache_saveCache_iff
    (h : (store.saveCache fingerprint rules s).1 = .ok ())
    {other : UInt64}
    {rules' : Conversion.Merged} :
    (store.loadCache other (store.saveCache fingerprint rules s).2).1 = some rules' ↔
      fingerprint = other ∧ rules = rules' := by
  rw [loadCache_eq_some_iff, read_saveCache h]
  simp only [Except.ok.injEq, exists_eq_left', CacheFile.ofContent?_content, Option.some_inj,
    CacheFile.mk.injEq, Fingerprint.text_injective.eq_iff]

/-- **The cache is cleared by the removal of its file**, or there is none. -/
theorem clearCache_cases
    (h : (store.clearCache s).1 = .ok ()) :
    s.files.remove store.cachePath = .ok (store.clearCache s).2.files ∨
      s.files.remove store.cachePath = .error .notFound ∧
        (store.clearCache s).2.files = s.files := by
  rw [clearCache, Session.bind_apply] at h ⊢
  dsimp only [Session.getFiles] at h ⊢
  cases hremove : s.files.remove store.cachePath with
  | ok files => exact .inl rfl
  | error fault =>
      cases fault with
      | notFound => exact .inr ⟨rfl, rfl⟩
      | _ => simp only [hremove] at h; cases h

/-- After the cache has been cleared, no cache file is read. -/
theorem read_clearCache_ne
    (h : (store.clearCache s).1 = .ok ())
    (content : ByteArray) :
    (store.clearCache s).2.files.read store.cachePath ≠ .ok content := by
  intro hread
  rcases clearCache_cases h with hremove | ⟨hremove, hfiles⟩
  · rw [Files.read_eq_ok_iff, Files.node?_of_remove hremove, if_pos rfl] at hread
    cases hread.2
  · rw [hfiles] at hread
    rw [Files.remove_of_read hread] at hremove
    cases hremove

/-- **The cache is a faithful store.**  When rules have been saved under a fingerprint,
whatever was in the directory before, they are loaded under it, and under no other
fingerprint is anything loaded.  When the cache has been cleared, nothing is loaded under
any fingerprint. -/
theorem loadCache_faithful
    (store : RulesetStore)
    (s : Session) :
    (∀ fingerprint rules, (store.saveCache fingerprint rules s).1 = .ok () →
        let kept := (store.saveCache fingerprint rules s).2
        (store.loadCache fingerprint kept).1 = some rules ∧
          ∀ other, other ≠ fingerprint → (store.loadCache other kept).1 = none) ∧
      ((store.clearCache s).1 = .ok () →
        ∀ fingerprint, (store.loadCache fingerprint (store.clearCache s).2).1 = none) := by
  constructor
  · intro fingerprint rules h kept
    refine ⟨(loadCache_saveCache_iff h).mpr ⟨rfl, rfl⟩, fun other hother => ?_⟩
    rw [Option.eq_none_iff_forall_ne_some]
    intro rules' hloaded
    exact hother ((loadCache_saveCache_iff h).mp hloaded).1.symm
  · intro h fingerprint
    rw [Option.eq_none_iff_forall_ne_some]
    intro rules hloaded
    obtain ⟨content, hread, -⟩ := loadCache_eq_some_iff.mp hloaded
    exact read_clearCache_ne h content hread

/-- Rules with quotes, backslashes and empty texts, saved over a file that is no cache. -/
theorem loadCache_faithful_quotes :
    let store : RulesetStore := { directory := "out" }
    let s : Session := .start
      { nodes := [(["out", "cached_rules.json"], .file "[".toUTF8), (["out"], .directory)] }
    let rules : Conversion.Merged :=
      { chunks := ["[\x7b\"a\":\"\\\\.é\"\x7d]", ""]
        extended := some "a.example#%#x = \"\\n\";\n" }
    let saved := store.saveCache 7 rules s
    let cleared := store.clearCache saved.2
    saved.1 = .ok () ∧ (store.loadCache 7 saved.2).1 = some rules ∧
      (store.loadCache 8 saved.2).1 = none ∧
      cleared.1 = .ok () ∧ (store.loadCache 7 cleared.2).1 = none := by
  intro store s rules saved cleared
  have hsaved : saved.1 = .ok () := by decide +kernel
  have hcleared : cleared.1 = .ok () := by decide +kernel
  obtain ⟨hload, hother⟩ := (loadCache_faithful store s).1 7 rules hsaved
  exact ⟨hsaved, hload, hother 8 (by decide), hcleared,
    (loadCache_faithful store saved.2).2 hcleared 7⟩

end RulesetStore
end FilterCompiler
