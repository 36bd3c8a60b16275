import FilterCompiler.Proofs.Ruleset.LongestPrefix
import FilterCompiler.Rule.Batch

/-!
# Decoding rulesets

A list of entries is told by its compact text, whatever its texts hold and whichever of
its parts are absent.  So a ruleset that has been assembled decodes to the entries that
were kept (`parse?_json_ofEntries`), and decoding any text, writing what was read and
decoding again changes nothing.
-/

namespace FilterCompiler

namespace Assembled

theorem ofRules_eq_ofEntries
    (version : HostVersion)
    (limits : Limits)
    (rules : List Rule) :
    ofRules version limits rules =
      ofEntries limits
        ((GroupedEntry.byGroup (rules.filterMap (·.toEntry version))).map GroupedEntry.entry) := by
  rw [ofRules, sortedEntries_eq]

/-- **What is kept is what the ruleset decodes to.** -/
theorem parse?_json_ofEntries
    (limits : Limits)
    (entries : List Entry)
    (h : 0 < (ofEntries limits entries).entriesCount) :
    Ruleset.parse? (ofEntries limits entries).json =
      some (entries.take (ofEntries limits entries).entriesCount) := by
  obtain ⟨k, -, hassembled, -⟩ := ofEntries_eq limits entries
  rw [hassembled] at h ⊢
  have hk : k ≠ 0 := Nat.ne_of_gt h
  dsimp only
  rw [if_neg hk, Ruleset.parse?_text]

end Assembled

namespace Ruleset

/-- **Entries survive being written and read.**  The compact text of a list of entries
decodes to the list.  Entries that were read from any text are read again from their
compact text.  A ruleset with an entry of its own decodes to the entries of its rules in
the order of their groups, as many of them as it counts. -/
theorem parse?_text_roundTrip :
    (∀ entries, parse? (text entries) = some entries) ∧
      (∀ json entries, parse? json = some entries → parse? (text entries) = parse? json) ∧
      ∀ (version : HostVersion) (limits : Assembled.Limits) (rules : List Rule),
        let entries :=
          (GroupedEntry.byGroup (rules.filterMap (·.toEntry version))).map GroupedEntry.entry
        let assembled := Assembled.ofRules version limits rules
        0 < assembled.entriesCount →
          parse? assembled.json = some (entries.take assembled.entriesCount) := by
  refine ⟨parse?_text, ?_, ?_⟩
  · intro json entries hjson
    rw [parse?_text, hjson]
  · intro version limits rules entries assembled hcount
    have hassembled : assembled = Assembled.ofEntries limits entries :=
      Assembled.ofRules_eq_ofEntries version limits rules
    rw [hassembled] at hcount ⊢
    exact Assembled.parse?_json_ofEntries limits entries hcount

/-- An entry whose selector has a quote, a backslash, a control character and a character
beyond ASCII, and one of whose lists is empty; it was read from a text with another order
of keys, and with a key that means nothing.  Two rules of which the second one gives the
first entry. -/
theorem parse?_text_roundTrip_escapes :
    let entry : Entry :=
      { trigger := { Trigger.ofFilter ".*" with isCaseSensitive := some false, ifDomain := some [] }
        action := { kind := .hide, selector := some "a[b=\"\\\u0001\u00e9\"]" } }
    let json :=
      "[ \x7b\"action\":\x7b\"selector\":\"a[b=\\u0022\\\\\\u0001\u00e9\\\"]\"," ++
        "\"type\":\"css-display-none\"\x7d,\"x\":[1],\"trigger\":\x7b\"url-filter\":\".*\"," ++
        "\"if-domain\":[],\"load-type\":null,\"url-filter-is-case-sensitive\":false\x7d\x7d ]"
    let rules := (RuleBatch.ofLines .v16_4 ["||ads.example^", "##.ad"]).rules
    let entries :=
      (GroupedEntry.byGroup (rules.filterMap (·.toEntry .v16_4))).map GroupedEntry.entry
    let assembled := Assembled.ofRules .v16_4 { entries := 1, bytes := none } rules
    parse? json = some [entry] ∧ parse? (text [entry]) = parse? json ∧
      0 < assembled.entriesCount ∧
      parse? assembled.json = some (entries.take assembled.entriesCount) ∧
      (entries.take assembled.entriesCount).map (·.action.selector) = [some ".ad"] := by
  intro entry json rules entries assembled
  obtain ⟨-, hagain, hdecodes⟩ := parse?_text_roundTrip
  have hassembled : assembled = Assembled.ofEntries { entries := 1, bytes := none } entries := by
    rw [← Assembled.ofRules_eq_ofEntries]
  have hjson : parse? json = some [entry] := by decide +kernel
  have hcount : 0 < assembled.entriesCount := by
    rw [hassembled]
    decide +kernel
  have hselector :
      (entries.take assembled.entriesCount).map (·.action.selector) = [some ".ad"] := by
    rw [hassembled]
    decide +kernel
  exact ⟨hjson, hagain json [entry] hjson, hcount, hdecodes .v16_4 _ rules hcount, hselector⟩

end Ruleset
end FilterCompiler
