import FilterCompiler.Proofs.Conversion.Merging
import FilterCompiler.Proofs.Ruleset.Assemble
import FilterCompiler.Proofs.Store.Fingerprint
import FilterCompiler.Proofs.Store.Rulesets
import FilterCompiler.Store.Cache

/-!
# What the cache gives back

A cache file is read back from its content (`ofContent?_content`), and the text of a
ruleset, which may be written in its place, is not read as one (`ofContent?_text`).
What is kept belongs to a request.  Requests with the same byte stream have the same
rules (`Request.rules_eq_of_stream_eq`), though one may set no limit where the other
sets the greatest one: no text is so long that it makes a difference.
-/

namespace FilterCompiler

/-! ## Reading the file -/

namespace CacheFile

/-- The parts of a cache file with their keys. -/
def parts (c : CacheFile) : List (String × Option Json.Value) :=
  [("fingerprint", some (.ofString c.fingerprint)),
   ("chunks", some (Json.ofStrings c.rules.chunks)),
   ("extended", c.rules.extended.map .ofString)]

theorem toValue_eq
    (c : CacheFile) :
    c.toValue = .object (Json.fieldsOf c.parts) := by
  simp [toValue, parts, Json.fieldsOf]

theorem ofValue?_toValue
    (c : CacheFile) :
    ofValue? c.toValue = some c := by
  have hparts : Json.parts? keys 2 c.toValue = some (c.parts.map Prod.snd) := by
    rw [toValue_eq]
    exact Json.parts?_object c.parts 2 (by simp [parts])
  have hfingerprint :
      Json.required? Json.text? (some (.ofString c.fingerprint)) = some c.fingerprint :=
    Json.text?_ofString c.fingerprint
  have hchunks :
      Json.required? (Json.list? Json.text?) (some (Json.ofStrings c.rules.chunks)) =
        some c.rules.chunks :=
    Json.list?_ofStrings c.rules.chunks
  have hextended :
      Json.optional? Json.text? (c.rules.extended.map .ofString) = some c.rules.extended :=
    Json.optional?_map Json.text?_ofString (fun _ h => by cases h) _
  rw [ofValue?, hparts]
  simp only [parts, List.map_cons, List.map_nil, Option.bind_some, ofParts?,
    hfingerprint, hchunks, hextended]
  rfl

theorem isProper_toValue
    (c : CacheFile) :
    c.toValue.IsProper := by
  rw [toValue_eq]
  apply Json.isProper_object_fieldsOf
  simp only [parts, List.forall_mem_cons]
  refine ⟨?_, ?_, ?_, by simp⟩
  · rintro v ⟨⟩
    exact Json.Value.isProper_ofString _
  · rintro v ⟨⟩
    exact Json.isProper_ofStrings _
  · intro v hv
    obtain ⟨s, -, rfl⟩ := Option.map_eq_some_iff.mp hv
    exact Json.Value.isProper_ofString s

theorem contentChars_toUTF8
    (s : String) :
    contentChars s.toUTF8 = s.toList := by
  have hread : String.fromUTF8? s.toUTF8 = some s := by
    rw [String.fromUTF8?, String.toUTF8_eq_toByteArray, dif_pos s.isValidUTF8]
    rfl
  rw [contentChars, hread]

/-- **A cache file is read back from its content.** -/
theorem ofContent?_content
    (c : CacheFile) :
    ofContent? c.content = some c := by
  rw [ofContent?, content, contentChars_toUTF8, Json.Value.render, String.toList_ofList,
    Json.Value.parse?_chars c.isProper_toValue, Option.bind_some, ofValue?_toValue]

/-- A list of objects is not read as a cache file: it is no record of two or three parts,
or the first part is not a text. -/
theorem ofValue?_array
    (entries : List Entry) :
    ofValue? (.array (entries.map Entry.toValue)) = none := by
  rcases entries with _ | ⟨first, _ | ⟨second, _ | ⟨third, _ | ⟨fourth, entries⟩⟩⟩⟩
  · rfl
  · rfl
  · rfl
  · rfl
  · simp [ofValue?, Json.parts?, keys]

/-- **A ruleset is not read as a cache file.** -/
theorem ofContent?_text
    (entries : List Entry) :
    ofContent? (Ruleset.text entries).toUTF8 = none := by
  rw [ofContent?, contentChars_toUTF8, Ruleset.parse?_chars_text, Option.bind_some,
    ofValue?_array]

end CacheFile

/-! ## Requests -/

namespace Conversion

/-- What a conversion comes to is the text of a ruleset. -/
theorem exists_json_alone
    (options : ConversionOptions)
    (lines : List String) :
    ∃ entries, (alone options lines).json = Ruleset.text entries := by
  obtain ⟨k, -, hjson, -⟩ := Assembled.ofEntries_eq (limits options)
    (Assembled.sortedEntries options.version
      (Resolved.ofRules options.version
        (splitRules (RuleBatch.ofLines options.version lines).rules).1).rules)
  have halone : (alone options lines).json = _ := congrArg Assembled.json hjson
  rw [halone]
  split
  · exact ⟨_, rfl⟩
  · exact ⟨_, rfl⟩

/-- No limit and a limit that the ruleset keeps anyway come to the same. -/
theorem alone_eq_of_le
    {version : HostVersion}
    {advanced : Bool}
    {max : Nat}
    {lines : List String}
    (hmax : 2 ≤ max)
    (h : (alone { version, advanced, maxJsonSize := none } lines).json.utf8ByteSize ≤ max) :
    alone { version, advanced, maxJsonSize := some max } lines =
      alone { version, advanced, maxJsonSize := none } lines := by
  have hassembled := Assembled.ofEntries_eq_of_le version.rulesLimit
    (Assembled.sortedEntries version
      (Resolved.ofRules version (splitRules (RuleBatch.ofLines version lines).rules).1).rules)
    hmax h
  have halone : ∀ options : ConversionOptions,
      alone options lines =
        ofBatch options lines.length (RuleBatch.ofLines options.version lines) := fun _ => rfl
  simp only [halone, ofBatch, limits, Assembled.ofRules, hassembled]
  rfl

end Conversion

/-- What is asked of a conversion. -/
structure Request where
  options : ConversionOptions
  chunkSize : Nat
  lines : List String
deriving DecidableEq, Repr

namespace Request

/-- The byte stream of the request. -/
def stream (r : Request) : List UInt8 := Fingerprint.stream r.options r.chunkSize r.lines

/-- The chunks of the lines, converted. -/
def conversions (r : Request) : List Conversion :=
  let source := ChunkedLines.ofLines r.chunkSize r.lines
  (List.range source.count).map fun index => Conversion.alone r.options (source.chunk index)

/-- The rules that the request comes to. -/
def rules (r : Request) : Conversion.Merged := Conversion.merge r.conversions

/-- The cache file of the request. -/
def cacheFile (r : Request) : CacheFile :=
  { fingerprint := Fingerprint.text (Hash.ofBytes r.stream), rules := r.rules }

/-- The request can be made of the program: sizes are machine words, those of the texts
that come of it too, and no line goes on in another. -/
structure IsProper (r : Request) : Prop where
  stream : Fingerprint.IsProper r.options r.chunkSize r.lines
  json_lt : ∀ conversion ∈ r.conversions, conversion.json.utf8ByteSize < 2 ^ 64

/-- Every ruleset of a request is the text of a ruleset. -/
theorem exists_of_mem_chunks
    {r : Request}
    {chunk : String}
    (h : chunk ∈ r.rules.chunks) :
    ∃ entries, chunk = Ruleset.text entries := by
  obtain ⟨conversion, hconversion, rfl⟩ := List.mem_map.mp h
  obtain ⟨index, -, rfl⟩ := List.mem_map.mp hconversion
  exact Conversion.exists_json_alone _ _

/-- Lanes come to the conversions of the request, however many they are. -/
theorem conversions_convert
    (r : Request)
    (lanes : Nat) :
    (Lanes.convert r.options { chunkSize := r.chunkSize, lanes } false r.lines).conversions =
      some r.conversions := by
  rw [Lanes.convert_eq]
  rfl

theorem conversions_unlimited
    {version : HostVersion}
    {advanced : Bool}
    {chunkSize : Nat}
    {lines : List String}
    (h : IsProper { options := { version, advanced, maxJsonSize := none }, chunkSize, lines }) :
    conversions
        { options := { version, advanced, maxJsonSize := some Fingerprint.unlimited }
          chunkSize
          lines } =
      conversions { options := { version, advanced, maxJsonSize := none }, chunkSize, lines } := by
  refine List.map_congr_left fun index hindex => ?_
  refine Conversion.alone_eq_of_le (by decide) (Nat.le_sub_one_of_lt (h.json_lt _ ?_))
  exact List.mem_map_of_mem hindex

/-- Requests with the same byte stream have the same conversions. -/
theorem conversions_eq_of_stream_eq
    {r r' : Request}
    (hr : r.IsProper)
    (hr' : r'.IsProper)
    (h : r.stream = r'.stream) :
    r.conversions = r'.conversions := by
  obtain ⟨hversion, hadvanced, hmax, hchunkSize, hlines⟩ :=
    Fingerprint.stream_inj hr.stream hr'.stream h
  obtain ⟨⟨version, advanced, max⟩, chunkSize, lines⟩ := r
  obtain ⟨⟨version', advanced', max'⟩, chunkSize', lines'⟩ := r'
  dsimp only at hversion hadvanced hmax hchunkSize hlines
  subst hversion hadvanced hchunkSize hlines
  cases max <;> cases max' <;> simp only [Option.getD_none, Option.getD_some] at hmax
  · rfl
  · rw [← hmax, conversions_unlimited hr]
  · rw [hmax, conversions_unlimited hr']
  · rw [hmax]

/-- **Requests with the same byte stream have the same rules.** -/
theorem rules_eq_of_stream_eq
    {r r' : Request}
    (hr : r.IsProper)
    (hr' : r'.IsProper)
    (h : r.stream = r'.stream) :
    r.rules = r'.rules :=
  congrArg Conversion.merge (conversions_eq_of_stream_eq hr hr' h)

end Request

/-! ## Loading and saving -/

namespace RulesetStore

variable {written : List String → ByteArray → Prop}

theorem place_cachePath
    (store : RulesetStore) :
    Path.place store.cachePath = Path.place store.directory ++ ["cached_rules.json"] :=
  Path.place_join_of_isSimple ⟨by decide, by decide, by decide, by decide⟩ _

theorem place_extendedPath_ne
    (store : RulesetStore) :
    Path.place store.extendedPath ≠ Path.place store.cachePath := by
  rw [place_cachePath, place_extendedPath]
  intro h
  exact absurd (List.append_cancel_left h) (by decide)

theorem regular_loadCache
    (store : RulesetStore)
    (fingerprint : UInt64) :
    Session.Regular written (store.loadCache fingerprint) := by
  unfold loadCache
  refine .reading (fun _ _ h => by rw [h.read_eq]) fun files => ?_
  split
  · exact .pure none
  split
  · exact .bind (.say _ _) fun _ => .pure none
  split
  · exact .bind (.say _ _) fun _ => .pure _
  · exact .bind (.say _ _) fun _ => .pure none

/-- **Loading takes the rules of a cache file that has the fingerprint**, and leaves the
files as they are. -/
theorem loadCache_apply
    (store : RulesetStore)
    (fingerprint : UInt64)
    (s : Session) :
    (store.loadCache fingerprint s).2.files = s.files ∧
      ∀ rules, (store.loadCache fingerprint s).1 = some rules →
        ∃ content cache, s.files.read store.cachePath = .ok content ∧
          CacheFile.ofContent? content = some cache ∧
          cache.fingerprint = Fingerprint.text fingerprint ∧ cache.rules = rules := by
  rw [loadCache, Session.bind_apply]
  dsimp only [Session.getFiles]
  cases hread : s.files.read store.cachePath with
  | error fault => exact ⟨rfl, by rintro rules ⟨⟩⟩
  | ok content =>
      cases hcache : CacheFile.ofContent? content with
      | none =>
          simp only [hcache]
          exact ⟨rfl, by rintro rules ⟨⟩⟩
      | some cache =>
          by_cases hfingerprint : cache.fingerprint = Fingerprint.text fingerprint
          · simp only [hcache, if_pos hfingerprint]
            refine ⟨rfl, ?_⟩
            rintro rules ⟨⟩
            exact ⟨content, cache, rfl, hcache, hfingerprint, rfl⟩
          · simp only [hcache, if_neg hfingerprint]
            exact ⟨rfl, by rintro rules ⟨⟩⟩

/-- **Forgetting removes the cache file or leaves the files as they are.** -/
theorem clearCache_apply
    (store : RulesetStore)
    (s : Session) :
    (store.clearCache s).2.output = s.output ∧
      ((store.clearCache s).2.files = s.files ∨
        s.files.remove store.cachePath = .ok (store.clearCache s).2.files) := by
  rw [clearCache, Session.bind_apply]
  dsimp only [Session.getFiles]
  cases s.files.remove store.cachePath with
  | ok files => exact ⟨rfl, .inr rfl⟩
  | error fault => cases fault <;> exact ⟨rfl, .inl rfl⟩

end RulesetStore
end FilterCompiler
