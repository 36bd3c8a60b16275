import FilterCompiler.Conversion.Chunks
import FilterCompiler.Json.Record
import FilterCompiler.Store.Fingerprint
import FilterCompiler.Store.Rulesets

/-!
# The conversion cache

The last conversion is kept in the store as JSON together with its fingerprint. It is used again only
for a conversion with the same fingerprint; a cache file that cannot be read counts as none.
-/

namespace FilterCompiler

/-- What the cache file holds. -/
structure CacheFile where
  fingerprint : String
  rules : Conversion.Merged
deriving DecidableEq, Repr

namespace CacheFile

/-- The keys of the parts, in order. -/
def keys : List String := ["fingerprint", "chunks", "extended"]

/-- The JSON value of a cache file. -/
def toValue (c : CacheFile) : Json.Value :=
  .object
    (Json.field "fingerprint" (some (.ofString c.fingerprint))
      ++ Json.field "chunks" (some (Json.ofStrings c.rules.chunks))
      ++ Json.field "extended" (c.rules.extended.map .ofString))

/-- The cache file of its parts. -/
def ofParts? : Json.Parts → Option CacheFile
  | [fingerprint, chunks, extended] => do
      return {
        fingerprint := ← Json.required? Json.text? fingerprint
        rules :=
          { chunks := ← Json.required? (Json.list? Json.text?) chunks
            extended := ← Json.optional? Json.text? extended } }
  | _ => none

/-- The cache file of a JSON value. -/
def ofValue? (v : Json.Value) : Option CacheFile := (Json.parts? keys 2 v).bind ofParts?

/-- The content of the file. -/
def content (c : CacheFile) : ByteArray := c.toValue.render.toUTF8

/-- What is read in the place of bytes that are no text. It makes a text unreadable that holds it,
which does no harm as long as nobody asks for that text, and it may stand nowhere else: no escape
ends with it and no word holds it. -/
def filler : List Char := "?\\udc00\\udc00".toList

/-- The characters of some content. -/
def contentChars (content : ByteArray) : List Char :=
  match String.fromUTF8? content with
  | some text => text.toList
  | none => Text.decodeWith filler content.toList

/-- The cache file of some content. -/
def ofContent? (content : ByteArray) : Option CacheFile :=
  (Json.Value.parse? (contentChars content)).bind ofValue?

end CacheFile

namespace RulesetStore

/-- The path of the cache. -/
def cachePath (store : RulesetStore) : String := Path.join store.directory "cached_rules.json"

/-- The cached rules of a fingerprint. -/
def loadCache (store : RulesetStore) (fingerprint : UInt64) :
    SessionM (Option Conversion.Merged) := do
  match (← Session.getFiles).read store.cachePath with
  | .error _ => return none
  | .ok content =>
      match CacheFile.ofContent? content with
      | none =>
          Session.warn s!"Ignoring unreadable cache '{store.cachePath}':"
          return none
      | some cache =>
          if cache.fingerprint = Fingerprint.text fingerprint then
            Session.info s!"Using cached rules from '{store.cachePath}'"
            return some cache.rules
          else
            Session.debug "Cache fingerprint mismatch, converting again"
            return none

/-- Keeps rules under a fingerprint, in the place of what was kept before. -/
def saveCache (store : RulesetStore) (fingerprint : UInt64) (rules : Conversion.Merged) :
    SessionM (Except StoreFault Unit) :=
  writeFile store.cachePath (CacheFile.content { fingerprint := Fingerprint.text fingerprint, rules })

/-- Forgets what is kept. -/
def clearCache (store : RulesetStore) : SessionM (Except StoreFault Unit) := do
  match (← Session.getFiles).remove store.cachePath with
  | .ok files =>
      Session.setFiles files
      return .ok ()
  | .error .notFound => return .ok ()
  | .error fault => return .error (.remove store.cachePath fault)

end RulesetStore
end FilterCompiler
