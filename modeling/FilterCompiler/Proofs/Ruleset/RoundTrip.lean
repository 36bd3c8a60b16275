import FilterCompiler.Proofs.Json.RoundTrip
import FilterCompiler.Ruleset.Entry

/-!
# Writing and reading rulesets

A record is written as the fields of its parts and read by looking up the keys
of its parts.  For keys that do not repeat the two are inverse
(`parts?_object`); triggers, actions and entries are such records.  The main
result is `parse?_text`.
-/

namespace FilterCompiler
namespace Json

/-! ## Records -/

/-- The fields of the parts of a record. -/
def fieldsOf (parts : List (String × Option Value)) : List (Option (List Char) × Value) :=
  parts.flatMap fun p => field p.1 p.2

theorem fieldsOf_cons
    (p : String × Option Value)
    (parts : List (String × Option Value)) :
    fieldsOf (p :: parts) = field p.1 p.2 ++ fieldsOf parts := by
  rfl

theorem valuesOf_append
    (key : String)
    (fields fields' : List (Option (List Char) × Value)) :
    valuesOf key (fields ++ fields') = valuesOf key fields ++ valuesOf key fields' := by
  simp [valuesOf]

theorem valuesOf_field
    (key key' : String)
    (part : Option Value) :
    valuesOf key (field key' part) = if key' = key then part.toList else [] := by
  cases part with
  | none => simp [field, valuesOf]
  | some v =>
      by_cases h : key' = key
      · simp [field, valuesOf, h]
      · have hlist : key'.toList ≠ key.toList := fun h' => h (String.toList_inj.mp h')
        simp [field, valuesOf, h, hlist]

theorem valuesOf_fieldsOf_of_notMem
    {key : String}
    {parts : List (String × Option Value)}
    (h : key ∉ parts.map Prod.fst) :
    valuesOf key (fieldsOf parts) = [] := by
  induction parts with
  | nil => rfl
  | cons p parts ih =>
      rw [List.map_cons, List.mem_cons, not_or] at h
      rw [fieldsOf_cons, valuesOf_append, valuesOf_field, if_neg (Ne.symm h.1), ih h.2]
      rfl

/-- A key that does not repeat has the value of its part. -/
theorem valuesOf_fieldsOf
    {key : String}
    {part : Option Value}
    {parts : List (String × Option Value)}
    (hkeys : (parts.map Prod.fst).Nodup)
    (hmem : (key, part) ∈ parts) :
    valuesOf key (fieldsOf parts) = part.toList := by
  induction parts with
  | nil => simp at hmem
  | cons p parts ih =>
      rw [List.map_cons, List.nodup_cons] at hkeys
      rw [fieldsOf_cons, valuesOf_append, valuesOf_field]
      rcases List.mem_cons.mp hmem with rfl | hmem
      · rw [valuesOf_fieldsOf_of_notMem hkeys.1]
        simp
      · have hne : p.1 ≠ key := by
          intro h
          rw [h] at hkeys
          exact hkeys.1 (List.mem_map_of_mem hmem)
        rw [if_neg hne, ih hkeys.2 hmem]
        rfl

theorem partOf?_fieldsOf
    {key : String}
    {part : Option Value}
    {parts : List (String × Option Value)}
    (hkeys : (parts.map Prod.fst).Nodup)
    (hmem : (key, part) ∈ parts) :
    partOf? (fieldsOf parts) key = some part := by
  rw [partOf?, valuesOf_fieldsOf hkeys hmem]
  cases part <;> rfl

theorem mapM_eq_some_map
    {α β γ : Type}
    {f : β → Option γ}
    {g : α → β}
    {h : α → γ}
    {l : List α}
    (hl : ∀ a ∈ l, f (g a) = some (h a)) :
    (l.map g).mapM f = some (l.map h) := by
  induction l with
  | nil => rfl
  | cons a l ih =>
      rw [List.forall_mem_cons] at hl
      rw [List.map_cons, List.mapM_cons, hl.1, ih hl.2]
      rfl

/-- **The parts of a record are read back from its fields.** -/
theorem parts?_object
    (parts : List (String × Option Value))
    (required : Nat)
    (hkeys : (parts.map Prod.fst).Nodup) :
    parts? (parts.map Prod.fst) required (.object (fieldsOf parts)) =
      some (parts.map Prod.snd) := by
  have hsome : (fieldsOf parts).all (·.1.isSome) = true := by
    rw [List.all_eq_true]
    intro f hf
    obtain ⟨p, -, hf⟩ := List.mem_flatMap.mp hf
    unfold field at hf
    split at hf
    · simp at hf
    · rw [List.mem_singleton.mp hf]
      rfl
  rw [parts?, if_pos hsome]
  exact mapM_eq_some_map fun p hp => partOf?_fieldsOf hkeys hp

theorem isProper_object_fieldsOf
    {parts : List (String × Option Value)}
    (h : ∀ p ∈ parts, ∀ v ∈ p.2, v.IsProper) :
    (Value.object (fieldsOf parts)).IsProper := by
  apply Value.isProper_object
  intro f hf
  obtain ⟨p, hp, hf⟩ := List.mem_flatMap.mp hf
  unfold field at hf
  split at hf
  · simp at hf
  · next v hv =>
      rw [List.mem_singleton.mp hf]
      exact ⟨rfl, h p hp v hv⟩

/-! ## Parts -/

theorem text?_ofString
    (s : String) :
    text? (.ofString s) = some s := by
  simp [text?, Value.ofString]

theorem bool?_bool
    (b : Bool) :
    bool? (.bool b) = some b := by
  rfl

theorem list?_ofStrings
    (l : List String) :
    list? text? (ofStrings l) = some l := by
  rw [ofStrings, list?, mapM_eq_some_map fun s _ => text?_ofString s, List.map_id']

theorem isProper_ofStrings
    (l : List String) :
    (ofStrings l).IsProper := by
  apply Value.isProper_array
  intro v hv
  obtain ⟨s, -, rfl⟩ := List.mem_map.mp hv
  exact Value.isProper_ofString s

/-- A part that may be absent is read back. -/
theorem optional?_map
    {α : Type}
    {read? : Value → Option α}
    {write : α → Value}
    (hread : ∀ a, read? (write a) = some a)
    (hnull : ∀ a, write a ≠ .null)
    (part : Option α) :
    optional? read? (part.map write) = some part := by
  cases part with
  | none => rfl
  | some a =>
      rw [Option.map_some]
      unfold optional?
      split
      · next h => cases h
      · next h => exact absurd (Option.some.inj h) (hnull a)
      · next v _ h =>
          cases h
          rw [hread]
          rfl

end Json

/-! ## Entries -/

namespace Trigger

/-- The parts of a trigger with their keys. -/
def parts (t : Trigger) : List (String × Option Json.Value) :=
  [("url-filter", some (.ofString t.urlFilter)),
   ("url-filter-is-case-sensitive", t.isCaseSensitive.map .bool),
   ("if-domain", t.ifDomain.map Json.ofStrings),
   ("unless-domain", t.unlessDomain.map Json.ofStrings),
   ("resource-type", t.resourceType.map Json.ofStrings),
   ("load-type", t.loadType.map Json.ofStrings),
   ("load-context", t.loadContext.map Json.ofStrings)]

theorem toValue_eq
    (t : Trigger) :
    t.toValue = .object (Json.fieldsOf t.parts) := by
  simp [toValue, parts, Json.fieldsOf]

theorem ofValue?_toValue
    (t : Trigger) :
    ofValue? t.toValue = some t := by
  have hparts : Json.parts? keys 1 t.toValue = some (t.parts.map Prod.snd) := by
    rw [toValue_eq]
    exact Json.parts?_object t.parts 1 (by simp [parts])
  have htexts : ∀ part : Option (List String),
      Json.optional? (Json.list? Json.text?) (part.map Json.ofStrings) = some part :=
    Json.optional?_map Json.list?_ofStrings fun _ h => by cases h
  have hbool :
      Json.optional? Json.bool? (t.isCaseSensitive.map .bool) = some t.isCaseSensitive :=
    Json.optional?_map Json.bool?_bool (fun _ h => by cases h) _
  have hfilter :
      Json.required? Json.text? (some (.ofString t.urlFilter)) = some t.urlFilter :=
    Json.text?_ofString t.urlFilter
  rw [ofValue?, hparts]
  simp only [parts, List.map_cons, List.map_nil, Option.bind_some, ofParts?,
    htexts, hbool, hfilter]
  rfl

theorem isProper_toValue
    (t : Trigger) :
    t.toValue.IsProper := by
  have htexts : ∀ part : Option (List String),
      ∀ v ∈ part.map Json.ofStrings, v.IsProper := by
    intro part v hv
    obtain ⟨l, -, rfl⟩ := Option.map_eq_some_iff.mp hv
    exact Json.isProper_ofStrings l
  have hbool : ∀ v ∈ t.isCaseSensitive.map Json.Value.bool, v.IsProper := by
    intro v hv
    obtain ⟨b, -, rfl⟩ := Option.map_eq_some_iff.mp hv
    exact Json.Value.isProper_bool b
  rw [toValue_eq]
  apply Json.isProper_object_fieldsOf
  simp only [parts, List.forall_mem_cons]
  refine ⟨?_, hbool, htexts _, htexts _, htexts _, htexts _, htexts _, by simp⟩
  rintro v ⟨⟩
  exact Json.Value.isProper_ofString _

end Trigger

theorem ActionKind.ofName?_name
    (kind : ActionKind) :
    ofName? kind.name = some kind := by
  cases kind <;> rfl

namespace Action

theorem kindOfValue?_ofString
    (kind : ActionKind) :
    kindOfValue? (.ofString kind.name) = some kind := by
  simp [kindOfValue?, Json.Value.ofString, ActionKind.ofName?_name]

/-- The parts of an action with their keys. -/
def parts (a : Action) : List (String × Option Json.Value) :=
  [("type", some (.ofString a.kind.name)),
   ("selector", a.selector.map .ofString)]

theorem toValue_eq
    (a : Action) :
    a.toValue = .object (Json.fieldsOf a.parts) := by
  simp [toValue, parts, Json.fieldsOf]

theorem ofValue?_toValue
    (a : Action) :
    ofValue? a.toValue = some a := by
  have hparts : Json.parts? keys 1 a.toValue = some (a.parts.map Prod.snd) := by
    rw [toValue_eq]
    exact Json.parts?_object a.parts 1 (by simp [parts])
  have hselector :
      Json.optional? Json.text? (a.selector.map .ofString) = some a.selector :=
    Json.optional?_map Json.text?_ofString (fun _ h => by cases h) _
  have hkind :
      Json.required? kindOfValue? (some (.ofString a.kind.name)) = some a.kind :=
    kindOfValue?_ofString a.kind
  rw [ofValue?, hparts]
  simp only [parts, List.map_cons, List.map_nil, Option.bind_some, ofParts?,
    hselector, hkind]
  rfl

theorem isProper_toValue
    (a : Action) :
    a.toValue.IsProper := by
  rw [toValue_eq]
  apply Json.isProper_object_fieldsOf
  simp only [parts, List.forall_mem_cons]
  refine ⟨?_, ?_, by simp⟩
  · rintro v ⟨⟩
    exact Json.Value.isProper_ofString _
  · intro v hv
    obtain ⟨s, -, rfl⟩ := Option.map_eq_some_iff.mp hv
    exact Json.Value.isProper_ofString s

end Action

namespace Entry

/-- The parts of an entry with their keys. -/
def parts (e : Entry) : List (String × Option Json.Value) :=
  [("trigger", some e.trigger.toValue), ("action", some e.action.toValue)]

theorem toValue_eq
    (e : Entry) :
    e.toValue = .object (Json.fieldsOf e.parts) := by
  simp [toValue, parts, Json.fieldsOf]

/-- **An entry is read back from its value.** -/
theorem ofValue?_toValue
    (e : Entry) :
    ofValue? e.toValue = some e := by
  have hparts : Json.parts? keys 2 e.toValue = some (e.parts.map Prod.snd) := by
    rw [toValue_eq]
    exact Json.parts?_object e.parts 2 (by simp [parts])
  have htrigger :
      Json.required? Trigger.ofValue? (some e.trigger.toValue) = some e.trigger :=
    Trigger.ofValue?_toValue e.trigger
  have haction :
      Json.required? Action.ofValue? (some e.action.toValue) = some e.action :=
    Action.ofValue?_toValue e.action
  rw [ofValue?, hparts]
  simp only [parts, List.map_cons, List.map_nil, Option.bind_some, ofParts?,
    htrigger, haction]
  rfl

theorem isProper_toValue
    (e : Entry) :
    e.toValue.IsProper := by
  rw [toValue_eq]
  apply Json.isProper_object_fieldsOf
  simp only [parts, List.forall_mem_cons]
  refine ⟨?_, ?_, by simp⟩
  · rintro v ⟨⟩
    exact Trigger.isProper_toValue _
  · rintro v ⟨⟩
    exact Action.isProper_toValue _

end Entry

/-! ## Rulesets -/

namespace Ruleset

/-- The text of a ruleset is that of an array of its entries. -/
theorem toList_text
    (entries : List Entry) :
    (text entries).toList = (Json.Value.array (entries.map Entry.toValue)).chars := by
  have htexts :
      (entries.map Entry.text).map String.toList =
        (entries.map Entry.toValue).map Json.Value.chars := by
    simp [Function.comp_def, Entry.text, Json.Value.render]
  rw [Json.Value.chars_array, ← htexts, text, String.toList_append,
    String.toList_append, String.toList_intercalate]
  rfl

theorem parse?_chars_text
    (entries : List Entry) :
    Json.Value.parse? (text entries).toList =
      some (.array (entries.map Entry.toValue)) := by
  have hproper : (Json.Value.array (entries.map Entry.toValue)).IsProper := by
    apply Json.Value.isProper_array
    intro v hv
    obtain ⟨e, -, rfl⟩ := List.mem_map.mp hv
    exact Entry.isProper_toValue e
  rw [toList_text, Json.Value.parse?_chars hproper]

/-- **The entries of a ruleset are read back from its text.** -/
theorem parse?_text
    (entries : List Entry) :
    parse? (text entries) = some entries := by
  rw [parse?, parse?_chars_text, Option.bind_some, Json.list?,
    Json.mapM_eq_some_map fun e _ => Entry.ofValue?_toValue e, List.map_id']

end Ruleset
end FilterCompiler
